import ChangeImpact.Text.Basic

/-!
The words after a command. Words that start with a hyphen are options, up to a double hyphen; an option that
takes a value takes it from its own word or from the next one.
-/

set_option autoImplicit false

namespace ChangeImpact.Command

structure OptionRule where
  key : String
  long : String
  short : Option Char := none
  takesValue : Bool := true
  deriving DecidableEq, Repr

structure Words where
  options : List (String × String) := []
  others : List String := []
  deriving DecidableEq, Repr

namespace Words

def value? (words : Words) (key : String) : Option String :=
  (words.options.reverse.find? fun option => option.1 == key).map Prod.snd

def values (words : Words) (key : String) : List String :=
  (words.options.filter fun option => option.1 == key).map Prod.snd

def has (words : Words) (key : String) : Bool := (words.value? key).isSome

end Words

/-- What one word with a hyphen gives: whole options, and perhaps one that still lacks its value. -/
structure Given where
  options : List (String × String)
  waiting : Option String := none

/-- The short options of a word, one letter after another. What follows a letter that takes a value is
the value. -/
def shortOptions (rules : List OptionRule) : List Char → Option Given
  | [] => some { options := [] }
  | letter :: rest => do
      let rule ← rules.find? fun rule => rule.short == some letter
      if rule.takesValue then
        if rest.isEmpty then some { options := [], waiting := some rule.key }
        else some { options := [(rule.key, String.ofList rest)] }
      else
        let others ← shortOptions rules rest
        some { others with options := (rule.key, "") :: others.options }

def wordOptions (rules : List OptionRule) (word : String) : Option Given :=
  let (front, tail) := word.toList.span (· ≠ '=')
  match rules.find? fun rule => rule.long.toList == front with
  | some rule =>
      match tail with
      | _ :: value =>
          if rule.takesValue then some { options := [(rule.key, String.ofList value)] } else none
      | [] =>
          if rule.takesValue then some { options := [], waiting := some rule.key }
          else some { options := [(rule.key, "")] }
  | none =>
      if Text.startsWith word "--" then none else shortOptions rules (word.toList.drop 1)

def isOptionWord (word : String) : Bool :=
  Text.startsWith word "-" && word ≠ "-"

/-- The words of a command. Options may stand after other words only where they are mixed. -/
def readWords (rules : List OptionRule) (mixed : Bool) (words : List String) : Option Words :=
  match words with
  | [] => some {}
  | word :: rest =>
      if word = "--" then some { others := rest }
      else if isOptionWord word then
        match wordOptions rules word with
        | none => none
        | some { options, waiting := none } => do
            let others ← readWords rules mixed rest
            some { others with options := options ++ others.options }
        | some { options, waiting := some key } =>
            match rest with
            | [] => none
            | value :: after => do
                let others ← readWords rules mixed after
                some { others with options := options ++ (key, value) :: others.options }
      else if mixed then do
        let others ← readWords rules mixed rest
        some { others with others := word :: others.others }
      else some { others := word :: rest }
termination_by words.length

end ChangeImpact.Command
