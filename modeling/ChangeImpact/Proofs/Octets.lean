import ChangeImpact.Text.Utf8

/-!
Reading octets and writing them are inverse. A group of octets is a character exactly where it is the way in which that
character is written, so a strict reading accepts the octets of texts and no others, and gives back the text.
-/

set_option autoImplicit false

namespace ChangeImpact.Text

open String (utf8EncodeChar)

/-! ### Octets as numbers -/

theorem isContinuation_iff {octet : UInt8} :
    isContinuation octet = true ↔ 128 ≤ octet.toNat ∧ octet.toNat < 192 := by
  unfold isContinuation
  rw [Bool.and_eq_true, decide_eq_true_eq, decide_eq_true_eq, UInt8.le_iff_toNat_le, UInt8.lt_iff_toNat_lt]
  rfl

/-- A second octet continues a group; after four first octets not all of them do. -/
theorem mayFollow_iff {first second : UInt8} :
    mayFollow first second = true ↔
      (128 ≤ second.toNat ∧ second.toNat < 192) ∧
        (first.toNat = 224 → 160 ≤ second.toNat) ∧ (first.toNat = 237 → second.toNat < 160) ∧
        (first.toNat = 240 → 144 ≤ second.toNat) ∧ (first.toNat = 244 → second.toNat < 144) := by
  have number : ∀ octet : UInt8, first = octet ↔ first.toNat = octet.toNat := fun _ => UInt8.toNat_inj.symm
  unfold mayFollow
  simp only [number, UInt8.reduceToNat]
  repeat' split
  all_goals
    simp only [isContinuation_iff, Bool.and_eq_true, decide_eq_true_eq, UInt8.le_iff_toNat_le,
      UInt8.lt_iff_toNat_lt, UInt8.reduceToNat]
    omega

theorem ofNat_eq {number : Nat} (octet : UInt8) (same : number = octet.toNat) : UInt8.ofNat number = octet := by
  rw [same, UInt8.ofNat_toNat]

theorem toNat_ofNat {number : Nat} (valid : number.isValidChar) : (Char.ofNat number).toNat = number := by
  rw [Char.ofNat, dif_pos valid]
  rfl

/-! ### Groups that are characters -/

section

variable {first second third fourth : UInt8} (rest : List UInt8)

/-- One octet is a character of its own. -/
theorem groupOf_one (low : first.toNat < 128) :
    groupOf first rest = .char (Char.ofNat first.toNat) 1 ∧
      utf8EncodeChar (Char.ofNat first.toNat) = [first] := by
  constructor
  · unfold groupOf
    rw [if_pos (UInt8.lt_iff_toNat_lt.mpr low)]
  · unfold utf8EncodeChar
    rw [Char.toNat_val, toNat_ofNat (Or.inl (by omega))]
    dsimp only
    rw [if_pos (by omega), ofNat_eq first rfl]

theorem groupOf_two (lead : 194 ≤ first.toNat ∧ first.toNat < 224) (next : isContinuation second = true) :
    groupOf first (second :: rest) = .char (Char.ofNat (first.toNat % 32 * 64 + low6 second)) 2 ∧
      utf8EncodeChar (Char.ofNat (first.toNat % 32 * 64 + low6 second)) = [first, second] := by
  have bounds := isContinuation_iff.mp next
  constructor
  · unfold groupOf
    simp only [UInt8.lt_iff_toNat_lt, UInt8.reduceToNat]
    rw [if_neg (by omega), if_neg (by omega), if_pos lead.2, if_pos (mayFollow_iff.mpr (by omega))]
  · unfold utf8EncodeChar low6
    rw [Char.toNat_val, toNat_ofNat (Or.inl (by omega))]
    dsimp only
    rw [if_neg (by omega), if_pos (by omega), ofNat_eq first (by omega),
      ofNat_eq second (by omega)]

theorem groupOf_three (lead : 224 ≤ first.toNat ∧ first.toNat < 240) (next : mayFollow first second = true)
    (last : isContinuation third = true) :
    groupOf first (second :: third :: rest) =
        .char (Char.ofNat ((first.toNat % 16 * 64 + low6 second) * 64 + low6 third)) 3 ∧
      utf8EncodeChar (Char.ofNat ((first.toNat % 16 * 64 + low6 second) * 64 + low6 third)) =
        [first, second, third] := by
  have bounds := mayFollow_iff.mp next
  have lastBounds := isContinuation_iff.mp last
  constructor
  · unfold groupOf
    simp only [UInt8.lt_iff_toNat_lt, UInt8.reduceToNat]
    rw [if_neg (by omega), if_neg (by omega), if_neg (by omega), if_pos lead.2, if_pos next, if_pos last]
  · -- After 237 the second octet is small, which keeps the number out of the gap in the middle.
    unfold utf8EncodeChar low6
    have valid : ((first.toNat % 16 * 64 + second.toNat % 64) * 64 + third.toNat % 64).isValidChar := by
      unfold Nat.isValidChar
      omega
    rw [Char.toNat_val, toNat_ofNat valid]
    dsimp only
    rw [if_neg (by omega), if_neg (by omega), if_pos (by omega), ofNat_eq first (by omega),
      ofNat_eq second (by omega), ofNat_eq third (by omega)]

theorem groupOf_four (lead : 240 ≤ first.toNat ∧ first.toNat < 245) (next : mayFollow first second = true)
    (more : isContinuation third = true) (last : isContinuation fourth = true) :
    groupOf first (second :: third :: fourth :: rest) =
        .char (Char.ofNat (((first.toNat % 8 * 64 + low6 second) * 64 + low6 third) * 64 + low6 fourth)) 4 ∧
      utf8EncodeChar
          (Char.ofNat (((first.toNat % 8 * 64 + low6 second) * 64 + low6 third) * 64 + low6 fourth)) =
        [first, second, third, fourth] := by
  have bounds := mayFollow_iff.mp next
  have moreBounds := isContinuation_iff.mp more
  have lastBounds := isContinuation_iff.mp last
  constructor
  · unfold groupOf
    simp only [UInt8.lt_iff_toNat_lt, UInt8.reduceToNat]
    rw [if_neg (by omega), if_neg (by omega), if_neg (by omega), if_neg (by omega), if_pos lead.2, if_pos next,
      if_pos more, if_pos last]
  · unfold utf8EncodeChar low6
    have valid : (((first.toNat % 8 * 64 + second.toNat % 64) * 64 + third.toNat % 64) * 64 +
        fourth.toNat % 64).isValidChar := by
      unfold Nat.isValidChar
      omega
    rw [Char.toNat_val, toNat_ofNat valid]
    dsimp only
    rw [if_neg (by omega), if_neg (by omega), if_neg (by omega), ofNat_eq first (by omega),
      ofNat_eq second (by omega), ofNat_eq third (by omega), ofNat_eq fourth (by omega)]

end

theorem utf8EncodeChar_injective {left right : Char} (same : utf8EncodeChar left = utf8EncodeChar right) :
    left = right := by
  have one := @ByteArray.utf8DecodeChar?_utf8EncodeChar_append ByteArray.empty left
  have two := @ByteArray.utf8DecodeChar?_utf8EncodeChar_append ByteArray.empty right
  rw [same] at one
  exact Option.some.inj (one.symm.trans two)

theorem exists_more {value : Char} {octets : List UInt8} (written : utf8EncodeChar value = octets)
    (more : List UInt8) :
    ∃ rest, octets ++ more = utf8EncodeChar value ++ rest ∧ octets.length = (utf8EncodeChar value).length := by
  rw [written]
  exact ⟨more, rfl, rfl⟩

/-- A group that is a character is that character written out. -/
theorem written_of_groupOf {first : UInt8} {rest : List UInt8} {value : Char} {length : Nat}
    (found : groupOf first rest = .char value length) :
    ∃ more, first :: rest = utf8EncodeChar value ++ more ∧ length = (utf8EncodeChar value).length := by
  by_cases one : first.toNat < 128
  · obtain ⟨group, written⟩ := groupOf_one rest one
    rw [group] at found
    cases found
    exact exists_more written rest
  unfold groupOf at found
  simp only [UInt8.lt_iff_toNat_lt, UInt8.reduceToNat] at found
  rw [if_neg one] at found
  by_cases low : first.toNat < 194
  · rw [if_pos low] at found
    cases found
  rw [if_neg low] at found
  by_cases two : first.toNat < 224
  · rw [if_pos two] at found
    cases rest with
    | nil => cases found
    | cons second rest =>
        dsimp only at found
        by_cases next : mayFollow first second = true
        · rw [if_pos next] at found
          cases found
          have continues := isContinuation_iff.mpr (mayFollow_iff.mp next).1
          exact exists_more (groupOf_two rest ⟨by omega, two⟩ continues).2 rest
        · rw [if_neg next] at found
          cases found
  rw [if_neg two] at found
  by_cases three : first.toNat < 240
  · rw [if_pos three] at found
    rcases rest with _ | ⟨second, _ | ⟨third, rest⟩⟩
    · cases found
    · dsimp only at found
      split at found <;> cases found
    · dsimp only at found
      by_cases next : mayFollow first second = true
      · rw [if_pos next] at found
        by_cases last : isContinuation third = true
        · rw [if_pos last] at found
          cases found
          exact exists_more (groupOf_three rest ⟨by omega, three⟩ next last).2 rest
        · rw [if_neg last] at found
          cases found
      · rw [if_neg next] at found
        cases found
  rw [if_neg three] at found
  by_cases four : first.toNat < 245
  · rw [if_pos four] at found
    rcases rest with _ | ⟨second, _ | ⟨third, _ | ⟨fourth, rest⟩⟩⟩
    · cases found
    · dsimp only at found
      split at found <;> cases found
    · dsimp only at found
      split at found
      · split at found <;> cases found
      · cases found
    · dsimp only at found
      by_cases next : mayFollow first second = true
      · rw [if_pos next] at found
        by_cases more : isContinuation third = true
        · rw [if_pos more] at found
          by_cases last : isContinuation fourth = true
          · rw [if_pos last] at found
            cases found
            exact exists_more (groupOf_four rest ⟨by omega, four⟩ next more last).2 rest
          · rw [if_neg last] at found
            cases found
        · rw [if_neg more] at found
          cases found
      · rw [if_neg next] at found
        cases found
  · rw [if_neg four] at found
    cases found

theorem toNat_octet {number : Nat} (small : number < 256) : (UInt8.ofNat number).toNat = number :=
  UInt8.toNat_ofNat_of_lt' small

theorem isContinuation_octet (number : Nat) : isContinuation (UInt8.ofNat (number % 64 + 128)) = true := by
  rw [isContinuation_iff, toNat_octet (by omega)]
  omega

/-- A character that is written out is the first group. -/
theorem groupOf_of_written {value : Char} {first : UInt8} {rest more : List UInt8}
    (written : first :: rest = utf8EncodeChar value ++ more) :
    groupOf first rest = .char value (utf8EncodeChar value).length := by
  have valid : value.val.toNat.isValidChar := value.valid
  unfold Nat.isValidChar at valid
  have unique : ∀ {other : Char} {octets : List UInt8}, utf8EncodeChar other = octets →
      utf8EncodeChar value = octets → other = value :=
    fun one two => utf8EncodeChar_injective (one.trans two.symm)
  by_cases one : value.val.toNat ≤ 127
  · have octets : utf8EncodeChar value = [UInt8.ofNat value.val.toNat] := by
      unfold utf8EncodeChar
      exact if_pos one
    rw [octets] at written ⊢
    cases written
    have low : (UInt8.ofNat value.val.toNat).toNat < 128 := by
      rw [toNat_octet (by omega)]
      omega
    obtain ⟨group, same⟩ := groupOf_one more low
    exact group.trans (congrArg (OctetGroup.char · 1) (unique same octets))
  by_cases two : value.val.toNat ≤ 2047
  · have octets : utf8EncodeChar value =
        [UInt8.ofNat (value.val.toNat / 64 % 32 + 192), UInt8.ofNat (value.val.toNat % 64 + 128)] := by
      unfold utf8EncodeChar
      exact (if_neg one).trans (if_pos two)
    rw [octets] at written ⊢
    cases written
    have lead : 194 ≤ (UInt8.ofNat (value.val.toNat / 64 % 32 + 192)).toNat ∧
        (UInt8.ofNat (value.val.toNat / 64 % 32 + 192)).toNat < 224 := by
      rw [toNat_octet (by omega)]
      omega
    obtain ⟨group, same⟩ := groupOf_two more lead (isContinuation_octet _)
    exact group.trans (congrArg (OctetGroup.char · 2) (unique same octets))
  by_cases three : value.val.toNat ≤ 65535
  · have octets : utf8EncodeChar value =
        [UInt8.ofNat (value.val.toNat / 4096 % 16 + 224), UInt8.ofNat (value.val.toNat / 64 % 64 + 128),
          UInt8.ofNat (value.val.toNat % 64 + 128)] := by
      unfold utf8EncodeChar
      exact (if_neg one).trans ((if_neg two).trans (if_pos three))
    rw [octets] at written ⊢
    cases written
    have lead : 224 ≤ (UInt8.ofNat (value.val.toNat / 4096 % 16 + 224)).toNat ∧
        (UInt8.ofNat (value.val.toNat / 4096 % 16 + 224)).toNat < 240 := by
      rw [toNat_octet (by omega)]
      omega
    have next : mayFollow (UInt8.ofNat (value.val.toNat / 4096 % 16 + 224))
        (UInt8.ofNat (value.val.toNat / 64 % 64 + 128)) = true := by
      rw [mayFollow_iff, toNat_octet (by omega), toNat_octet (by omega)]
      omega
    obtain ⟨group, same⟩ := groupOf_three more lead next (isContinuation_octet _)
    exact group.trans (congrArg (OctetGroup.char · 3) (unique same octets))
  · have octets : utf8EncodeChar value =
        [UInt8.ofNat (value.val.toNat / 262144 % 8 + 240), UInt8.ofNat (value.val.toNat / 4096 % 64 + 128),
          UInt8.ofNat (value.val.toNat / 64 % 64 + 128), UInt8.ofNat (value.val.toNat % 64 + 128)] := by
      unfold utf8EncodeChar
      exact (if_neg one).trans ((if_neg two).trans (if_neg three))
    rw [octets] at written ⊢
    cases written
    have lead : 240 ≤ (UInt8.ofNat (value.val.toNat / 262144 % 8 + 240)).toNat ∧
        (UInt8.ofNat (value.val.toNat / 262144 % 8 + 240)).toNat < 245 := by
      rw [toNat_octet (by omega)]
      omega
    have next : mayFollow (UInt8.ofNat (value.val.toNat / 262144 % 8 + 240))
        (UInt8.ofNat (value.val.toNat / 4096 % 64 + 128)) = true := by
      rw [mayFollow_iff, toNat_octet (by omega), toNat_octet (by omega)]
      omega
    obtain ⟨group, same⟩ := groupOf_four more lead next (isContinuation_octet _) (isContinuation_octet _)
    exact group.trans (congrArg (OctetGroup.char · 4) (unique same octets))

/-! ### Rows of octets -/

/-- What belongs to a group already read is passed by. -/
theorem strictFrom_covered (front rest : List UInt8) (position : Nat) (done : List Char) :
    strictFrom front.length position done (front ++ rest) = strictFrom 0 (position + front.length) done rest := by
  induction front generalizing position with
  | nil => rfl
  | cons octet front ih =>
      rw [List.length_cons, List.cons_append, strictFrom, ih]
      congr 1
      omega

/-- One step of a strict reading: a character that is written out joins those already read. -/
theorem strictFrom_written (value : Char) (rest : List UInt8) (position : Nat) (done : List Char) :
    strictFrom 0 position done (utf8EncodeChar value ++ rest) =
      strictFrom 0 (position + (utf8EncodeChar value).length) (value :: done) rest := by
  cases octets : utf8EncodeChar value with
  | nil => exact absurd octets String.utf8EncodeChar_ne_nil
  | cons first front =>
      have group : groupOf first (front ++ rest) = .char value (utf8EncodeChar value).length := by
        apply groupOf_of_written
        rw [octets]
        rfl
      rw [List.cons_append, strictFrom, group, octets]
      dsimp only
      rw [List.length_cons, Nat.add_sub_cancel, strictFrom_covered]
      congr 1
      omega

/-- A strict reading accepts what characters are written as, and nothing else. -/
theorem strictFrom_ok_iff (octets : List UInt8) (position : Nat) (done chars : List Char) :
    strictFrom 0 position done octets = .ok chars ↔
      ∃ more, chars = done.reverse ++ more ∧ octets = more.flatMap utf8EncodeChar := by
  constructor
  · -- The octets get fewer with each character, so the induction is on their number.
    intro read
    generalize size : octets.length = count
    induction count using Nat.strongRecOn generalizing octets position done with
    | ind count ih =>
        cases octets with
        | nil =>
            cases read
            exact ⟨[], (List.append_nil _).symm, rfl⟩
        | cons first rest =>
            cases group : groupOf first rest with
            | fault cause length =>
                rw [strictFrom, group] at read
                cases read
            | char value length =>
                obtain ⟨more, written, _⟩ := written_of_groupOf group
                have shorter : more.length < count := by
                  have filled := List.length_pos_iff.mpr (@String.utf8EncodeChar_ne_nil value)
                  rw [← size, written, List.length_append]
                  omega
                rw [written, strictFrom_written] at read
                obtain ⟨others, same, octets⟩ := ih more.length shorter more _ _ read rfl
                refine ⟨value :: others, ?_, ?_⟩
                · rw [same, List.reverse_cons, List.append_assoc]
                  rfl
                · rw [written, octets, List.flatMap_cons]
  · rintro ⟨more, rfl, rfl⟩
    induction more generalizing position done with
    | nil => rw [List.flatMap_nil, strictFrom, List.append_nil]
    | cons value others ih =>
        rw [List.flatMap_cons, strictFrom_written, ih, List.reverse_cons, List.append_assoc]
        rfl

theorem toList_loop (octets : ByteArray) (index : Nat) (done : List UInt8) :
    ByteArray.toList.loop octets index done = done.reverse ++ octets.data.toList.drop index := by
  fun_induction ByteArray.toList.loop octets index done with
  | case1 index done inside ih =>
      have bound : index < octets.data.toList.length := inside
      rw [ih, List.drop_eq_getElem_cons bound, List.reverse_cons, List.append_assoc]
      simp [ByteArray.get!, inside]
  | case2 index done outside =>
      rw [List.drop_eq_nil_of_le (Nat.le_of_not_lt outside), List.append_nil]

/-- The octets of a text are those of its characters, one after another. -/
theorem encode_eq (text : String) : encode text = text.toList.flatMap utf8EncodeChar := by
  have data : text.toUTF8 = (text.toList.flatMap utf8EncodeChar).toByteArray := String.utf8Encode_toList.symm
  unfold encode ByteArray.toList
  rw [toList_loop, data, List.toList_data_toByteArray]
  rfl

/-- Octets have a text exactly if they are the octets of that text. -/
theorem decodeStrict_ok_iff {octets : List UInt8} {text : String} :
    decodeStrict octets = .ok text ↔ octets = encode text := by
  have read := strictFrom_ok_iff octets 0 []
  rw [encode_eq]
  constructor
  · intro found
    unfold decodeStrict at found
    cases outcome : strictFrom 0 0 [] octets with
    | error fault =>
        rw [outcome] at found
        cases found
    | ok chars =>
        rw [outcome] at found
        cases found
        obtain ⟨_, rfl, written⟩ := (read chars).mp outcome
        rw [String.toList_ofList]
        exact written
  · intro written
    have outcome := (read text.toList).mpr ⟨text.toList, rfl, written⟩
    simp only [decodeStrict, outcome, String.ofList_toList]

end ChangeImpact.Text
