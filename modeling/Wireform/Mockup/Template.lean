import Wireform.Mockup.Profile
import Wireform.Text

/-!
# Page templates

The markup that a profile is turned into: a fixed cycle of page sections.
-/

namespace Wireform.Mockup

/-- A part of a page. -/
inductive Section where
  | header
  | content
  | sidebar
  | footer
deriving DecidableEq, Repr

/-- The section at a place in the cycle. -/
def Section.at (index : Nat) : Section :=
  match index % 4 with
  | 0 => header
  | 1 => content
  | 2 => sidebar
  | _ => footer

/-- The style classes of a layout. -/
def Layout.classes : Layout → String
  | grid =>
    "grid grid-cols-1 md:grid-cols-2 lg:grid-cols-3 gap-6 p-6 bg-white rounded-lg shadow-md"
  | complex =>
    "flex flex-col lg:flex-row gap-6 p-6 bg-white rounded-lg shadow-md min-h-screen"
  | vertical =>
    "flex flex-col space-y-6 p-6 bg-white rounded-lg shadow-md max-w-md mx-auto"

/-- Lines that are emitted under a condition. -/
def linesIf (condition : Bool) (lines : List String) : List String :=
  if condition then lines else []

def linkLines (caption : String) : List String :=
  ["          <a href=\"#\" className=\"block px-3 py-2 text-sm text-gray-700 hover:bg-gray-200 rounded\">",
   "            " ++ caption,
   "          </a>"]

def Section.lines (hasButtons hasImages : Bool) : Section → List String
  | header =>
    ["      {/* Header Section */}",
     "      <header className=\"flex items-center justify-between py-4 border-b border-gray-200\">",
     "        <h1 className=\"text-2xl font-bold text-gray-900\">Your App Title</h1>"]
    ++ linesIf hasButtons
      ["        <button className=\"px-4 py-2 bg-blue-600 text-white rounded-md hover:bg-blue-700 transition-colors\">",
       "          Get Started",
       "        </button>"]
    ++ ["      </header>"]
  | content =>
    ["      {/* Main Content */}",
     "      <main className=\"flex-1 py-6\">",
     "        <div className=\"space-y-4\">",
     "          <h2 className=\"text-xl font-semibold text-gray-800\">Main Content</h2>",
     "          <p className=\"text-gray-600 leading-relaxed\">",
     "            This is the main content area of your component. You can customize this text",
     "            and layout based on your specific needs.",
     "          </p>"]
    ++ linesIf hasImages
      ["          <div className=\"w-full h-48 bg-gray-200 rounded-lg flex items-center justify-center\">",
       "            <span className=\"text-gray-500\">Image Placeholder</span>",
       "          </div>"]
    ++ linesIf hasButtons
      ["          <div className=\"flex gap-3\">",
       "            <button className=\"px-6 py-2 bg-green-600 text-white rounded-md hover:bg-green-700 transition-colors\">",
       "              Primary Action",
       "            </button>",
       "            <button className=\"px-6 py-2 border border-gray-300 text-gray-700 rounded-md hover:bg-gray-50 transition-colors\">",
       "              Secondary Action",
       "            </button>",
       "          </div>"]
    ++ ["        </div>",
        "      </main>"]
  | sidebar =>
    ["      {/* Sidebar */}",
     "      <aside className=\"w-full lg:w-64 bg-gray-50 rounded-lg p-4\">",
     "        <h3 className=\"font-medium text-gray-900 mb-3\">Quick Links</h3>",
     "        <nav className=\"space-y-2\">"]
    ++ ["Dashboard", "Settings", "Profile"].flatMap linkLines
    ++ ["        </nav>",
        "      </aside>"]
  | footer =>
    ["      {/* Footer */}",
     "      <footer className=\"py-4 border-t border-gray-200 text-center\">",
     "        <p className=\"text-sm text-gray-500\">",
     "          \u00a9 2024 Your Company. All rights reserved.",
     "        </p>",
     "      </footer>"]

/-- The lines of all sections of a profile. -/
def Profile.sectionLines (profile : Profile) : List String :=
  (List.range profile.sections).flatMap fun index =>
    (Section.at index).lines profile.hasButtons profile.hasImages

def Profile.render (profile : Profile) (name : String) : String :=
  Text.unlines
    (["import React from 'react';",
      "",
      "interface " ++ name ++ r"Props {",
      "  className?: string;",
      r"}",
      "",
      "export function " ++ name ++ r"({ className = '' }: " ++ name ++ r"Props) {",
      "  return (",
      r"    <div className={`" ++ profile.layout.classes ++ r" ${className}`}>"]
     ++ profile.sectionLines
     ++ ["    </div>",
         "  );",
         r"}",
         ""])
  ++ "export default " ++ name ++ ";"

/-- The description of the component for a profile. -/
def Profile.describe (profile : Profile) (name : String) : String :=
  "Generated " ++ name ++ " component with " ++ profile.layout.tag ++ " layout, "
    ++ toString profile.sections ++ " sections, "
    ++ (if profile.hasButtons then "with buttons" else "without buttons") ++ ", "
    ++ (if profile.hasImages then "with images" else "without images")

end Wireform.Mockup
