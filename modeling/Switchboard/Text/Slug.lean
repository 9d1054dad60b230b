/-
# Slugs

A name as part of a file name: its runs of ASCII letters and digits, in lower
case, joined by single dashes.
-/

namespace Switchboard
namespace Slug

/-- Characters that a slug keeps. -/
def isKept (c : Char) : Bool :=
  ('a' ≤ c && c ≤ 'z') || ('A' ≤ c && c ≤ 'Z') || ('0' ≤ c && c ≤ '9')

/-- A letter in lower case. -/
def lower (c : Char) : Char := if 'A' ≤ c && c ≤ 'Z' then Char.ofNat (c.toNat + 32) else c

/-- One character onto a slug, whose last character comes first: a character
that is kept is added in lower case, any other one adds a dash unless the slug
is empty or ends with one. -/
def step (out : List Char) (c : Char) : List Char :=
  if isKept c then lower c :: out
  else match out with
    | [] => []
    | '-' :: _ => out
    | _ => '-' :: out

/-- The slug of a name. -/
def ofChars (name : List Char) : List Char :=
  ((name.foldl step []).dropWhile (· == '-')).reverse

/-- The slug of a name, as text. -/
def ofString (name : String) : String := String.ofList (ofChars name.toList)

example : ofString "Biome (1.9.4) - LSP" = "biome-1-9-4-lsp" := by decide

end Slug
end Switchboard
