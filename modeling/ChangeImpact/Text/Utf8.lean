/-!
Texts of octets. Decoding goes from octet to octet: a well-formed group gives its character, and the
longest beginning of a group that cannot be completed is one fault. A strict reading stops at the first
fault, a tolerant one writes a replacement character for each.
-/

set_option autoImplicit false

namespace ChangeImpact.Text

inductive OctetFault where
  | invalidStart
  | invalidContinuation
  | unexpectedEnd
  deriving DecidableEq, Repr

def OctetFault.reason : OctetFault → String
  | .invalidStart => "invalid start byte"
  | .invalidContinuation => "invalid continuation byte"
  | .unexpectedEnd => "unexpected end of data"

/-- The first group of a row of octets: a character, or a fault, with the number of octets it takes. -/
inductive OctetGroup where
  | char (value : Char) (length : Nat)
  | fault (cause : OctetFault) (length : Nat)
  deriving DecidableEq, Repr

def low6 (octet : UInt8) : Nat := octet.toNat % 64

def isContinuation (octet : UInt8) : Bool := 0x80 ≤ octet && octet < 0xC0

def mayFollow (first second : UInt8) : Bool :=
  if first = 0xE0 then 0xA0 ≤ second && second < 0xC0
  else if first = 0xED then 0x80 ≤ second && second < 0xA0
  else if first = 0xF0 then 0x90 ≤ second && second < 0xC0
  else if first = 0xF4 then 0x80 ≤ second && second < 0x90
  else isContinuation second

def groupOf (first : UInt8) (rest : List UInt8) : OctetGroup :=
  if first < 0x80 then .char (Char.ofNat first.toNat) 1
  else if first < 0xC2 then .fault .invalidStart 1
  else if first < 0xE0 then
    match rest with
    | [] => .fault .unexpectedEnd 1
    | second :: _ =>
        if mayFollow first second then .char (Char.ofNat (first.toNat % 32 * 64 + low6 second)) 2
        else .fault .invalidContinuation 1
  else if first < 0xF0 then
    match rest with
    | [] => .fault .unexpectedEnd 1
    | second :: more =>
        if mayFollow first second then
          match more with
          | [] => .fault .unexpectedEnd 2
          | third :: _ =>
              if isContinuation third then
                .char (Char.ofNat ((first.toNat % 16 * 64 + low6 second) * 64 + low6 third)) 3
              else .fault .invalidContinuation 2
        else .fault .invalidContinuation 1
  else if first < 0xF5 then
    match rest with
    | [] => .fault .unexpectedEnd 1
    | second :: more =>
        if mayFollow first second then
          match more with
          | [] => .fault .unexpectedEnd 2
          | third :: last =>
              if isContinuation third then
                match last with
                | [] => .fault .unexpectedEnd 3
                | fourth :: _ =>
                    if isContinuation fourth then
                      .char (Char.ofNat
                        (((first.toNat % 8 * 64 + low6 second) * 64 + low6 third) * 64 +
                          low6 fourth)) 4
                    else .fault .invalidContinuation 3
              else .fault .invalidContinuation 2
        else .fault .invalidContinuation 1
  else .fault .invalidStart 1

def OctetGroup.tolerated : OctetGroup → Char
  | .char value _ => value
  | .fault _ _ => '\ufffd'

def OctetGroup.length : OctetGroup → Nat
  | .char _ length => length
  | .fault _ length => length

/-- Characters of octets with a replacement for each fault. The first `covered` octets belong to a
group already read, and the characters read so far are given in reverse. -/
def tolerantFrom (covered : Nat) (done : List Char) : List UInt8 → List Char
  | [] => done.reverse
  | octet :: rest =>
      match covered with
      | left + 1 => tolerantFrom left done rest
      | 0 =>
          let group := groupOf octet rest
          tolerantFrom (group.length - 1) (group.tolerated :: done) rest

def decodeTolerant (octets : List UInt8) : String :=
  String.ofList (tolerantFrom 0 [] octets)

/-- A fault in a row of octets: where it starts, how long it is, and the octet it starts with. -/
structure DecodeFault where
  cause : OctetFault
  position : Nat
  length : Nat
  octet : UInt8
  deriving DecidableEq, Repr

private def hexPair (number : Nat) : String :=
  let digits := Nat.toDigits 16 number
  String.ofList (List.replicate (2 - digits.length) '0' ++ digits)

def DecodeFault.message (fault : DecodeFault) : String :=
  let place :=
    if fault.length = 1 then s!"byte 0x{hexPair fault.octet.toNat} in position {fault.position}"
    else s!"bytes in position {fault.position}-{fault.position + fault.length - 1}"
  s!"'utf-8' codec can't decode {place}: {fault.cause.reason}"

def strictFrom (covered position : Nat) (done : List Char) : List UInt8 → Except DecodeFault (List Char)
  | [] => .ok done.reverse
  | octet :: rest =>
      match covered with
      | left + 1 => strictFrom left (position + 1) done rest
      | 0 =>
          match groupOf octet rest with
          | .fault cause length => .error { cause, position, length, octet }
          | .char value length => strictFrom (length - 1) (position + 1) (value :: done) rest

def decodeStrict (octets : List UInt8) : Except DecodeFault String :=
  match strictFrom 0 0 [] octets with
  | .error fault => .error fault
  | .ok chars => .ok (String.ofList chars)

/-- The characters after those already given (in reverse), each line ended by one line feed. -/
def unifyFrom (done : List Char) : List Char → List Char
  | [] => done.reverse
  | '\r' :: '\n' :: rest => unifyFrom ('\n' :: done) rest
  | '\r' :: rest => unifyFrom ('\n' :: done) rest
  | c :: rest => unifyFrom (c :: done) rest

def unifyLineEnds (text : String) : String :=
  String.ofList (unifyFrom [] text.toList)

def encode (text : String) : List UInt8 := text.toUTF8.toList

end ChangeImpact.Text
