import EntityGraph.Text.CaseTable
import EntityGraph.Text.TitleTable
/-!
Full lower-casing of a text, with the one mapping that depends on its surroundings.

* `lowerChar`: the lower-case form of a single character; one character, the dotted capital I, has
  a lower-case form of two.
* `isFinalSigma`: a capital sigma ends a word when the nearest character before it that is not
  transparent has case, and the nearest one after it, if any, has not.
* `lower`: the lower-case form of a text; a capital sigma at the end of a word becomes `ς`.
* `titleChar`: the capital form of a character at the start of a text.
* `capitalize`: the first character in its capital form and the rest in lower case.
-/

namespace EntityGraph.Text

/-- Characters skipped when the surroundings of a sigma are inspected. -/
def isTransparent (c : Char) : Bool := inRanges transparentRanges c

/-- Characters with case that are not skipped. -/
def isCased (c : Char) : Bool := inRanges casedRanges c

/-- The partner of a character in a table of arithmetic runs; other characters stay. -/
def shifted (steps : List (Nat × Nat × Nat × Int)) (c : Char) : Char :=
  match steps.find? fun (first, last, step, _) =>
      first ≤ c.toNat && c.toNat ≤ last && (c.toNat - first) % step == 0 with
  | some (_, _, _, shift) => Char.ofNat ((c.toNat : Int) + shift).toNat
  | none => c

/-- The lower-case form of a character taken alone. -/
def lowerChar (c : Char) : List Char :=
  if c.toNat < 128 then [c.toLower]
  else if c = '\u0130' then ['i', '\u0307']
  else [shifted lowerSteps c]

/-- The capital form of a character at the start of a text. -/
def titleChar (c : Char) : List Char :=
  match titleExpansions.lookup c.toNat with
  | some codes => codes.map Char.ofNat
  | none => [shifted titleSteps c]

/-- Whether the nearest character that is not transparent has case. -/
def nearestIsCased (cs : List Char) : Bool :=
  match cs.dropWhile isTransparent with
  | [] => false
  | c :: _ => isCased c

/-- A capital sigma stands at the end of a word: `before` lists the characters to its left, nearest
first, and `after` those to its right. -/
def isFinalSigma (before after : List Char) : Bool :=
  nearestIsCased before && !nearestIsCased after

/-- Lower-casing with the characters already passed, nearest first. -/
def lowerFrom : List Char → List Char → List Char
  | _, [] => []
  | before, c :: after =>
    (if c = 'Σ' then [if isFinalSigma before after then 'ς' else 'σ'] else lowerChar c)
      ++ lowerFrom (c :: before) after

/-- The characters of the lower-case form of a text. -/
def lowerChars (cs : List Char) : List Char := lowerFrom [] cs

/-- The lower-case form of a text. -/
def lower (s : String) : String := String.ofList (lowerChars s.toList)

/-- ASCII letters in lower case; for texts that are known to be ASCII. -/
def lowerAscii (s : String) : String := String.ofList (s.toList.map Char.toLower)

/-- The first character in its capital form and all others in lower case. -/
def capitalize (s : String) : String :=
  match s.toList with
  | [] => ""
  | c :: rest => String.ofList (titleChar c ++ lowerFrom [c] rest)

end EntityGraph.Text
