import ChangeImpact.Text.Wildcard

/-!
File name patterns: a star matches any row of characters, a question mark any one, and a bracketed set
one of its members or, after an exclamation mark, one of the others.
-/

set_option autoImplicit false

namespace ChangeImpact.Glob

structure Span where
  first : Char
  last : Char
  deriving DecidableEq, Repr

inductive Token where
  | star
  | any
  | exactly (char : Char)
  | oneOf (negated : Bool) (members : List Span)
  deriving DecidableEq, Repr

/-- The chunks of a set between the hyphens that make ranges. A hyphen counts from position `from` of
what is left on. -/
def chunksFrom : (fuel start : Nat) → List Char → List (List Char)
  | 0, _, chars => [chars]
  | fuel + 1, start, chars =>
      match (chars.drop start).span (· ≠ '-') with
      | (_, []) => [chars]
      | (skipped, _ :: rest) =>
          chars.take (start + skipped.length) :: chunksFrom fuel 2 rest

/-- A last chunk with nothing in it leaves its hyphen to the chunk before. -/
def settleEnd : List (List Char) → List (List Char)
  | [chunk, []] => [chunk ++ ['-']]
  | chunk :: rest => chunk :: settleEnd rest
  | [] => []

/-- Drops a range that runs backwards, with both of its ends. -/
def dropReversed (chunk : List Char) (rest : List (List Char)) : List (List Char) :=
  match chunk.getLast?, rest with
  | some last, (first :: more) :: others =>
      if first < last then (chunk.dropLast ++ more) :: others else chunk :: rest
  | _, _ => chunk :: rest

def single (char : Char) : Span := { first := char, last := char }

/-- The members of chunks: a range joins the last of one with the first of the next. -/
def members : List (List Char) → List Span
  | [] => []
  | [chunk] => chunk.map single
  | chunk :: next :: rest =>
      match chunk.getLast?, next with
      | some last, first :: more =>
          chunk.dropLast.map single ++ { first := last, last := first } :: members (more :: rest)
      | _, _ => chunk.map single ++ members (next :: rest)
termination_by chunks => chunks.length

def setToken (body : List Char) : Token :=
  let negated := body.head? = some '!'
  let chunks :=
    if body.contains '-' then
      (settleEnd (chunksFrom body.length (if negated then 2 else 1) body)).foldr dropReversed []
    else [body]
  if negated then
    match chunks with
    | (_ :: first) :: rest => .oneOf true (members (first :: rest))
    | _ => .oneOf true []
  else .oneOf false (members chunks)

/-- Splits a pattern after an opening bracket at the closing one. A bracket in the first place, or
right after an exclamation mark, is a member. -/
def closeSet? (chars : List Char) : Option (List Char × List Char) :=
  let lead :=
    match chars with
    | '!' :: ']' :: _ => 2
    | '!' :: _ => 1
    | ']' :: _ => 1
    | _ => 0
  match (chars.drop lead).span (· ≠ ']') with
  | (_, []) => none
  | (inside, _ :: rest) => some (chars.take lead ++ inside, rest)

/-- The tokens of a pattern. A bracket that is never closed stands for itself. -/
def tokensFrom : (fuel : Nat) → List Char → List Token
  | 0, _ => []
  | _ + 1, [] => []
  | fuel + 1, '*' :: rest => .star :: tokensFrom fuel rest
  | fuel + 1, '?' :: rest => .any :: tokensFrom fuel rest
  | fuel + 1, '[' :: rest =>
      match closeSet? rest with
      | some (body, after) => setToken body :: tokensFrom fuel after
      | none => .exactly '[' :: tokensFrom fuel rest
  | fuel + 1, c :: rest => .exactly c :: tokensFrom fuel rest

def tokens (pattern : String) : List Token :=
  tokensFrom pattern.toList.length pattern.toList

def Token.admits (token : Token) (c : Char) : Bool :=
  match token with
  | .star => true
  | .any => true
  | .exactly char => c = char
  | .oneOf negated members =>
      (members.any fun span => span.first ≤ c && c ≤ span.last) != negated

def Token.piece : Token → Wildcard.Piece
  | .star => .row
  | token => .one token.admits

def covers (pattern text : String) : Bool :=
  Wildcard.covers ((tokens pattern).map Token.piece) text.toList

end ChangeImpact.Glob
