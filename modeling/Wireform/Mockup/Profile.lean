import Wireform.Mockup.Base64

/-!
# Image profiles

The guess at a page's structure that is made for a mockup image.  It depends
on nothing but the size of the image, measured as the length of its Base64
form.
-/

namespace Wireform.Mockup

/-- How the sections of a page are laid out. -/
inductive Layout where
  | vertical
  | grid
  | complex
deriving DecidableEq, Repr

namespace Layout

/-- All layouts, in the order in which they are listed to users. -/
def all : List Layout := [vertical, grid, complex]

def tag : Layout → String
  | vertical => "vertical"
  | grid => "grid"
  | complex => "complex"

end Layout

/-- The structure that is assumed of a page. -/
structure Profile where
  layout : Layout
  sections : Nat
  hasButtons : Bool
  hasImages : Bool
deriving DecidableEq, Repr

/-- Above this encoded length a page is taken to be complex. -/
def complexThreshold : Nat := 100000

/-- Above this encoded length a page is taken to be a grid. -/
def gridThreshold : Nat := 50000

/-- The profile of an image whose Base64 form has the given length. -/
def Profile.ofEncodedLength (length : Nat) : Profile :=
  if length > complexThreshold then ⟨.complex, 4, true, true⟩
  else if length > gridThreshold then ⟨.grid, 3, true, false⟩
  else ⟨.vertical, 3, true, false⟩

/-- The reason why a mockup is not analyzed. -/
inductive AnalysisError where
  | emptyImage
  | badBase64 (fault : Base64.Fault)
deriving DecidableEq, Repr

def AnalysisError.message : AnalysisError → String
  | emptyImage => "Image payload is empty"
  | badBase64 fault => "Image payload is not valid base64: " ++ fault.message

/-- The size of an image with a number of bytes: the length of its Base64 form, or the
greatest number in a machine word if the length is greater still. -/
def measuredLength (count : Nat) : Nat :=
  (Base64.encodedLength? count).getD (USize.size - 1)

def Profile.ofImage (image : List UInt8) : Except AnalysisError Profile :=
  if image.isEmpty then .error .emptyImage
  else .ok (.ofEncodedLength (measuredLength image.length))

end Wireform.Mockup
