/-
# Languages

The language identifiers that the tool serves, and the one that a file's
extension stands for.  Extensions are compared without regard to the case of
ASCII letters.
-/

import Switchboard.Path.Basic

namespace Switchboard
namespace Language

/-- The languages that are served. -/
def supported : List String :=
  ["astro", "css", "graphql", "grit", "html", "javascript", "javascriptreact", "json", "jsonc",
    "snippets", "svelte", "tailwindcss", "typescript", "typescriptreact", "vue"]

/-- Whether a language is served. -/
def isSupported (language : String) : Bool := supported.contains language

/-- The language that an extension in lower case stands for. -/
def ofExtension? (extension : String) : Option String :=
  match extension with
  | "js" | "mjs" | "cjs" => some "javascript"
  | "jsx" => some "javascriptreact"
  | "ts" | "mts" | "cts" => some "typescript"
  | "tsx" => some "typescriptreact"
  | "json" => some "json"
  | "jsonc" => some "jsonc"
  | "css" => some "css"
  | "graphql" | "gql" => some "graphql"
  | "grit" => some "grit"
  | "html" | "htm" => some "html"
  | "astro" => some "astro"
  | "svelte" => some "svelte"
  | "vue" => some "vue"
  | _ => none

/-- A byte in lower case if it is an ASCII letter. -/
def lowerByte (b : UInt8) : UInt8 := if 0x41 ≤ b && b ≤ 0x5A then b + 0x20 else b

/-- The language of a file, by its extension. -/
def ofPath? (p : Path) : Option String :=
  p.extension.bind fun e => (Utf8.decode? (e.map lowerByte)).bind ofExtension?

end Language
end Switchboard
