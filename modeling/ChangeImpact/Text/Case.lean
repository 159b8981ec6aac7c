import ChangeImpact.Text.CaseTable

/-!
Upper and lower case of whole texts. A character may become a word, and the capital sigma at the end
of a word has a lower case of its own.
-/

set_option autoImplicit false

namespace ChangeImpact.Text

private def inRanges (ranges : List (Nat × Nat)) (c : Char) : Bool :=
  ranges.any fun range => range.1 ≤ c.toNat && c.toNat ≤ range.2

/-- A character that has a case and is not skipped between letters. -/
def isCased (c : Char) : Bool :=
  if c.toNat < 0x80 then c.isAlpha else inRanges casedRanges c

/-- A character that is skipped when the letters around a character are sought. -/
def isSkipped (c : Char) : Bool :=
  inRanges skippedRanges c

private def shifted (runs : List (Nat × Nat × Nat × Int)) (c : Char) : Char :=
  let covers := fun (run : Nat × Nat × Nat × Int) =>
    run.1 ≤ c.toNat && c.toNat ≤ run.2.1 && (c.toNat - run.1) % run.2.2.1 == 0
  match runs.find? covers with
  | some run => Char.ofNat (Int.ofNat c.toNat + run.2.2.2).toNat
  | none => c

private def cased (words : List (Nat × List Nat)) (runs : List (Nat × Nat × Nat × Int)) (c : Char) :
    List Char :=
  match words.lookup c.toNat with
  | some word => word.map Char.ofNat
  | none => [shifted runs c]

def lowerWord (c : Char) : List Char :=
  if c.toNat < 0x80 then [c.toLower] else cased lowerWords lowerRuns c

def upperWord (c : Char) : List Char :=
  if c.toNat < 0x80 then [c.toUpper] else cased upperWords upperRuns c

/-- Whether a letter stands before (nearest first) and none stands after, skipped characters apart. -/
def endsWord (before after : List Char) : Bool :=
  (match before.dropWhile isSkipped with
    | c :: _ => isCased c
    | [] => false) &&
  (match after.dropWhile isSkipped with
    | c :: _ => !isCased c
    | [] => true)

/-- Lower case of a text whose characters up to here, nearest first, are given too. -/
def lowerFrom (before : List Char) : List Char → List Char
  | [] => []
  | c :: rest =>
      let word :=
        if c = 'Σ' then [if endsWord before rest then 'ς' else 'σ'] else lowerWord c
      word ++ lowerFrom (c :: before) rest

def lower (text : String) : String :=
  String.ofList (lowerFrom [] text.toList)

def upper (text : String) : String :=
  String.ofList (text.toList.flatMap upperWord)

end ChangeImpact.Text
