import SupplyRisk.Json.Writer
import SupplyRisk.Proofs.Json.Numeral

/-!
# Reading back written JSON

Every tree without unreadable leaves is read back from its text as it was, in either spacing and with blanks behind
it (`read?_chars`).  Strings come back whatever characters they hold (`string?_escaped`), numbers as they were
written, and members in their order with repeated keys kept.  The reader's fuel bounds its nesting; the length of a
text is always enough of it.
-/

namespace SupplyRisk.Json

open Decimal
open Text (hexDigit hexValue?)

/-! ## Strings -/

theorem hexValue?_hexDigit : ∀ n < 16, hexValue? (hexDigit n) = some n := by decide

/-- A control character without a short escape. -/
theorem units?_control {c : Char} (hc : c.toNat < 32) (rest : List Char) :
    units? ('\\' :: 'u' :: '0' :: '0' :: hexDigit (c.toNat / 16) :: hexDigit (c.toNat % 16) :: rest) =
      (units? rest).map (fun found => (.char c :: found.1, found.2)) := by
  have hhigh := hexValue?_hexDigit (c.toNat / 16) (by omega)
  have hlow := hexValue?_hexDigit (c.toNat % 16) (by omega)
  have hzero : hexValue? '0' = some 0 := by decide
  have hcode : ((0 * 16 + 0) * 16 + c.toNat / 16) * 16 + c.toNat % 16 = c.toNat := by omega
  have hunit : TextUnit.ofCode c.toNat = .char c := by
    rw [TextUnit.ofCode, if_neg (by omega), Char.ofNat_toNat]
  rw [units?]
  simp only [hhigh, hlow, hzero, Option.bind_eq_bind, Option.bind_some, hcode, hunit]
  cases units? rest <;> rfl

theorem units?_plain {c : Char} (hquote : c ≠ '"') (hslash : c ≠ '\\') (hc : ¬ c.toNat < 32) (rest : List Char) :
    units? (c :: rest) = (units? rest).map (fun found => (.char c :: found.1, found.2)) := by
  rw [units?]
  · simp only [hc, hslash, or_self, if_false, Option.bind_eq_bind]
    cases units? rest <;> rfl
  · exact hquote
  · rintro a b e d r rfl
    exact absurd rfl hslash
  · rintro a r rfl
    exact absurd rfl hslash

/-- A character in a string is one unit, escaped or not. -/
theorem units?_escaped (c : Char) (rest : List Char) :
    units? (escaped c ++ rest) = (units? rest).map (fun found => (.char c :: found.1, found.2)) := by
  have hshort {d e : Char} (hc : c = d) (hu : e ≠ 'u') (hescape : shortEscape? e = some d) :
      units? ('\\' :: e :: rest) = (units? rest).map (fun found => (.char c :: found.1, found.2)) := by
    rw [units?]
    · simp only [hescape, hc, Option.bind_eq_bind, Option.bind_some]
      cases units? rest <;> rfl
    · rintro a b x d r heq
      exact absurd heq hu
  have hcode {n : Nat} (hn : c.toNat = n) : c = Char.ofNat n := by rw [← hn, Char.ofNat_toNat]
  -- Five characters and two codes have short forms; the other controls are written by their code.
  unfold escaped
  split
  · exact hshort ‹_› (by decide) rfl
  split
  · exact hshort ‹_› (by decide) rfl
  split
  · exact hshort ‹_› (by decide) rfl
  split
  · exact hshort ‹_› (by decide) rfl
  split
  · exact hshort ‹_› (by decide) rfl
  split
  · exact hshort (hcode ‹_›) (by decide) rfl
  split
  · exact hshort (hcode ‹_›) (by decide) rfl
  split
  · exact units?_control ‹_› rest
  · rename_i hquote hslash _ _ _ _ _ hc
    exact units?_plain hquote hslash hc rest

theorem units?_flatMap_escaped (cs rest : List Char) :
    units? (cs.flatMap escaped ++ '"' :: rest) = some (cs.map TextUnit.char, rest) := by
  induction cs with
  | nil => rw [List.flatMap_nil, List.nil_append, units?, List.map_nil]
  | cons c cs ih => rw [List.flatMap_cons, List.append_assoc, units?_escaped, ih, Option.map_some, List.map_cons]

theorem joined?_map_char (cs : List Char) : joined? (cs.map TextUnit.char) = some cs := by
  induction cs with
  | nil => rfl
  | cons c cs ih => rw [List.map_cons, joined?, ih, Option.map_some]

/-- A string is read back from its text behind the opening quote. -/
theorem string?_escaped (s : String) (rest : List Char) :
    string? (s.toList.flatMap escaped ++ '"' :: rest) = some (some s, rest) := by
  simp [string?, units?_flatMap_escaped, joined?_map_char]

/-! ## Trees that can be read -/

mutual

/-- No part of the tree is unreadable. -/
def legible : Json → Bool
  | .unreadable => false
  | .array items => legibleItems items
  | .object members => legibleMembers members
  | _ => true

def legibleItems : List Json → Bool
  | [] => true
  | item :: items => legible item && legibleItems items

def legibleMembers : List (String × Json) → Bool
  | [] => true
  | (_, value) :: members => legible value && legibleMembers members

end

@[simp] theorem legible_number (n : Numeral) : (number n).legible = true := by simp [legible]
@[simp] theorem legible_nat (n : Nat) : (nat n).legible = true := legible_number _
@[simp] theorem legible_bool (b : Bool) : (bool b).legible = true := by simp [legible]
@[simp] theorem legible_string (s : String) : (string s).legible = true := by simp [legible]
@[simp] theorem legible_null : null.legible = true := by simp [legible]

@[simp] theorem legible_array (items : List Json) : (array items).legible = items.all legible := by
  induction items with
  | nil => rfl
  | cons item items ih => exact congrArg (item.legible && ·) ih

@[simp] theorem legible_object (members : List (String × Json)) :
    (object members).legible = members.all (fun m => m.2.legible) := by
  induction members with
  | nil => rfl
  | cons m members ih => exact congrArg (m.2.legible && ·) ih

@[simp] theorem legible_real (x : Float) : (real x).legible = true := by
  unfold real
  split <;> rfl

@[simp] theorem legible_ofOption {α : Type} {f : α → Json} (hf : ∀ a, (f a).legible = true) (o : Option α) :
    (ofOption f o).legible = true := by
  cases o with
  | none => rfl
  | some a => exact hf a

@[simp] theorem legible_ofList {α : Type} {f : α → Json} (hf : ∀ a, (f a).legible = true) (as : List α) :
    (ofList f as).legible = true := by
  simp [ofList, hf]

/-! ## White space -/

def Blank (sp : List Char) : Prop := ∀ c ∈ sp, isSpace c = true

theorem skipSpace_append {sp : List Char} (hsp : Blank sp) (cs : List Char) : skipSpace (sp ++ cs) = skipSpace cs := by
  induction sp with
  | nil => rfl
  | cons c sp ih =>
      have hc : isSpace c = true := hsp c (by simp)
      simp [skipSpace, hc, ih fun d hd => hsp d (by simp [hd])]

theorem skipSpace_cons {c : Char} (hc : isSpace c = false) (cs : List Char) : skipSpace (c :: cs) = c :: cs := by
  simp [skipSpace, hc]

theorem skipSpace_blank {sp : List Char} (hsp : Blank sp) : skipSpace sp = [] := by
  simpa [skipSpace] using skipSpace_append hsp []

theorem blank_newline (s : Spacing) (level : Nat) : Blank (s.newline level) := by
  intro c hc
  unfold Spacing.newline at hc
  split at hc
  · cases hc
  · rcases List.mem_cons.1 hc with rfl | hc
    · rfl
    · rw [(List.mem_replicate.1 hc).2]
      rfl

/-! ## Values -/

/-- What may stand behind a value inside a text: a comma, a closing bracket or white space. -/
def Closes (rest : List Char) : Prop :=
  ∀ c ∈ rest.head?, c = ',' ∨ c = ']' ∨ c = '\x7d' ∨ isSpace c = true

theorem closes_of_head {c : Char} (hc : c = ',' ∨ c = ']' ∨ c = '\x7d') (rest : List Char) : Closes (c :: rest) := by
  rintro d hd
  obtain rfl : c = d := by simpa using hd
  rcases hc with h | h | h
  · exact .inl h
  · exact .inr (.inl h)
  · exact .inr (.inr (.inl h))

theorem closes_blank_append {sp rest : List Char} (hsp : Blank sp) (hrest : Closes rest) : Closes (sp ++ rest) := by
  cases sp with
  | nil => exact hrest
  | cons c sp =>
      intro d hd
      obtain rfl : c = d := by simpa using hd
      exact .inr (.inr (.inr (hsp c (by simp))))

theorem Closes.endsNumeral {rest : List Char} (hrest : Closes rest) : EndsNumeral rest := by
  have hall (c : Char) (hc : c ∈ rest.head?) : digit? c = none ∧ c ≠ '.' ∧ c ≠ 'e' ∧ c ≠ 'E' := by
    rcases hrest c hc with rfl | rfl | rfl | hspace
    · decide
    · decide
    · decide
    · simp only [isSpace, Bool.or_eq_true, decide_eq_true_eq] at hspace
      rcases hspace with ((rfl | rfl) | rfl) | rfl <;> decide
  exact ⟨fun c hc => (hall c hc).1, fun c hc => (hall c hc).2.1, fun c hc => (hall c hc).2.2⟩

/-- The reader skips white space in front of a value. -/
theorem value?_blank_append {sp : List Char} (hsp : Blank sp) (fuel : Nat) (cs : List Char) :
    value? fuel (sp ++ cs) = value? fuel cs := by
  cases fuel with
  | zero => rw [value?, value?]
  | succ fuel => rw [value?, value?, skipSpace_append hsp]

theorem pair?_blank_append {sp : List Char} (hsp : Blank sp) (fuel : Nat) (cs : List Char) :
    pair? fuel (sp ++ cs) = pair? fuel cs := by
  cases fuel with
  | zero => rw [pair?, pair?]
  | succ fuel => rw [pair?, pair?, skipSpace_append hsp]

/-- Between a key and its value stands a colon, with nothing but white space behind it. -/
def Spacing.Proper (s : Spacing) : Prop := ∃ sp, s.colon = ':' :: sp ∧ Blank sp

theorem Spacing.proper_pretty : pretty.Proper := ⟨[' '], rfl, by simp [Blank, isSpace]⟩

theorem isSpace_char (d : Digit) : isSpace d.char = false := by
  revert d
  decide

/-- The text of a value starts with the value, and not with a bracket that would end an array. -/
theorem chars_cons (s : Spacing) (level : Nat) (j : Json) :
    ∃ c cs, chars s level j = c :: cs ∧ isSpace c = false ∧ c ≠ ']' := by
  cases j with
  | null => exact ⟨'n', _, rfl, rfl, by decide⟩
  | unreadable => exact ⟨'n', _, rfl, rfl, by decide⟩
  | bool b => cases b <;> exact ⟨_, _, rfl, rfl, by decide⟩
  | number n =>
      obtain ⟨c, cs, htext, rfl | ⟨d, rfl⟩⟩ := text_cons n
      · exact ⟨'-', cs, htext, rfl, by decide⟩
      · exact ⟨d.char, cs, htext, isSpace_char d, Digit.char_ne_of_digit?_eq_none (by decide) d⟩
  | string t => exact ⟨'"', _, rfl, rfl, by decide⟩
  | array items => cases items <;> exact ⟨'[', _, rfl, rfl, by decide⟩
  | object members => cases members <;> exact ⟨'\x7b', _, rfl, rfl, by decide⟩

/-- What starts like a number is read as one. -/
theorem value?_of_numeral {c : Char} (hc : c = '-' ∨ ∃ d : Digit, c = d.char) (fuel : Nat) (cs : List Char) :
    value? (fuel + 1) (c :: cs) = (numeral? (c :: cs)).map (fun found => (.number found.1, found.2)) := by
  have hspace : isSpace c = false := by
    rcases hc with rfl | ⟨d, rfl⟩
    · rfl
    · exact isSpace_char d
  have hother {x : Char} (hminus : '-' ≠ x) (hx : digit? x = none) : c ≠ x := by
    rcases hc with rfl | ⟨d, rfl⟩
    · exact hminus
    · exact Digit.char_ne_of_digit?_eq_none hx d
  rw [value?, skipSpace_cons hspace]
  -- The other values start with characters of their own.
  split
  · rename_i heq
    cases heq
  · rename_i heq
    exact absurd (List.cons.inj heq).1 (hother (by decide) (by decide))
  · rename_i heq
    exact absurd (List.cons.inj heq).1 (hother (by decide) (by decide))
  · rename_i heq
    exact absurd (List.cons.inj heq).1 (hother (by decide) (by decide))
  · rename_i heq
    exact absurd (List.cons.inj heq).1 (hother (by decide) (by decide))
  · rename_i heq
    exact absurd (List.cons.inj heq).1 (hother (by decide) (by decide))
  · rename_i heq
    exact absurd (List.cons.inj heq).1 (hother (by decide) (by decide))
  · rename_i heq
    cases heq
    rfl

theorem value?_number (n : Numeral) (fuel : Nat) {rest : List Char} (hrest : Closes rest) :
    value? (fuel + 1) (n.text true ++ rest) = some (.number n, rest) := by
  obtain ⟨c, cs, htext, hc⟩ := text_cons n
  rw [htext, List.cons_append, value?_of_numeral hc, ← List.cons_append, ← htext,
    numeral?_text hrest.endsNumeral, Option.map_some]

theorem ofMembers_keys (members : List (String × Json)) :
    ofMembers (members.map (fun m => (some m.1, m.2))) = .object members := by
  have hkeys : (members.map (fun m => (some m.1, m.2))).mapM
      (fun m : Option String × Json => m.1.map (fun key => (key, m.2))) = some members := by
    induction members with
    | nil => rfl
    | cons m ms ih => simp [List.mapM_cons, ih]
  rw [ofMembers, hkeys]

/-- An array whose first item and further items are read is read. -/
theorem value?_array {fuel : Nat} {cs cs' rest : List Char} {item : Json} {items : List Json} {sp : List Char}
    (hsp : Blank sp) (hhead : ∃ c cs', cs = c :: cs' ∧ isSpace c = false ∧ c ≠ ']')
    (hitem : value? fuel cs = some (item, cs')) (hitems : items? fuel cs' = some (items, rest)) :
    value? (fuel + 1) ('[' :: (sp ++ cs)) = some (.array (item :: items), rest) := by
  obtain ⟨c, cs, rfl, hspace, hc⟩ := hhead
  rw [value?, skipSpace_cons rfl]
  simp only [skipSpace_append hsp, skipSpace_cons hspace]
  split
  · rename_i heq
    exact absurd (List.cons.inj heq).1 hc
  · simp only [hitem, hitems, Option.bind_eq_bind, Option.bind_some]

/-- An object whose first member and further members are read is read. -/
theorem value?_object {fuel : Nat} {cs cs' rest : List Char} {m : Option String × Json}
    {ms : List (Option String × Json)} {sp : List Char} (hsp : Blank sp) (hm : pair? fuel ('"' :: cs) = some (m, cs'))
    (hms : members? fuel cs' = some (ms, rest)) :
    value? (fuel + 1) ('\x7b' :: (sp ++ '"' :: cs)) = some (ofMembers (m :: ms), rest) := by
  rw [value?, skipSpace_cons rfl]
  simp only [skipSpace_append hsp, skipSpace_cons (c := '"') rfl]
  split
  · rename_i heq
    exact absurd (List.cons.inj heq).1 (by decide)
  · simp only [hm, hms, Option.bind_eq_bind, Option.bind_some]

theorem closes_items (s : Spacing) (level : Nat) (items : List Json) {sp : List Char} (hsp : Blank sp)
    (rest : List Char) : Closes (itemsChars s level items ++ (sp ++ ']' :: rest)) := by
  cases items with
  | nil =>
      simpa only [itemsChars, List.nil_append] using closes_blank_append hsp (closes_of_head (.inr (.inl rfl)) rest)
  | cons item items => exact closes_of_head (.inl rfl) _

theorem closes_members (s : Spacing) (level : Nat) (ms : List (String × Json)) {sp : List Char} (hsp : Blank sp)
    (rest : List Char) : Closes (membersChars s level ms ++ (sp ++ '\x7d' :: rest)) := by
  cases ms with
  | nil =>
      simpa only [membersChars, List.nil_append] using closes_blank_append hsp (closes_of_head (.inr (.inr rfl)) rest)
  | cons m ms => exact closes_of_head (.inl rfl) _

mutual

/-- A value is read back from its text. -/
theorem value?_chars {s : Spacing} (hs : s.Proper) (j : Json) (hj : j.legible = true) (level fuel : Nat)
    (hfuel : (chars s level j).length < fuel) {rest : List Char} (hrest : Closes rest) :
    value? fuel (chars s level j ++ rest) = some (j, rest) := by
  obtain ⟨fuel, rfl⟩ := Nat.exists_eq_succ_of_ne_zero (Nat.ne_of_gt (Nat.zero_lt_of_lt hfuel))
  match j with
  | .null => rfl
  | .unreadable => cases hj
  | .bool true => rfl
  | .bool false => rfl
  | .number n => exact value?_number n fuel hrest
  | .string t =>
      have hstring := string?_escaped t rest
      show value? (fuel + 1) ('"' :: t.toList.flatMap escaped ++ ['"'] ++ rest) = _
      rw [List.append_assoc, List.singleton_append, List.cons_append, value?, skipSpace_cons rfl]
      simp only [hstring, Option.bind_eq_bind, Option.bind_some, Option.elim]
  | .array [] => rfl
  | .object [] => rfl
  | .array (item :: items) =>
      -- The fuel is more than the text is long, so what is left suffices for each of the shorter parts.
      obtain ⟨hitem, hitems⟩ := Bool.and_eq_true_iff.1 hj
      simp only [chars, List.length_append, List.length_cons] at hfuel
      have hfirst := value?_chars hs item hitem (level + 1) fuel (by omega)
        (closes_items s (level + 1) items (blank_newline s level) rest)
      have hmore := items?_itemsChars hs items hitems (level + 1) fuel (by omega)
        (blank_newline s level) rest
      obtain ⟨c, cs, hcs, hc⟩ := chars_cons s (level + 1) item
      have hhead : ∃ c cs', chars s (level + 1) item ++
          (itemsChars s (level + 1) items ++ (s.newline level ++ ']' :: rest)) = c :: cs' ∧
            isSpace c = false ∧ c ≠ ']' :=
        ⟨c, _, by rw [hcs, List.cons_append], hc⟩
      simpa only [chars, List.cons_append, List.append_assoc, List.nil_append] using
        value?_array (blank_newline s (level + 1)) hhead hfirst hmore
  | .object (m :: ms) =>
      obtain ⟨hm, hms⟩ := Bool.and_eq_true_iff.1 hj
      simp only [chars, List.length_append, List.length_cons] at hfuel
      have hfirst := pair?_memberChars hs m hm (level + 1) fuel (by omega)
        (closes_members s (level + 1) ms (blank_newline s level) rest)
      have hmore := members?_membersChars hs ms hms (level + 1) fuel (by omega)
        (blank_newline s level) rest
      obtain ⟨cs, hcs⟩ : ∃ cs, memberChars s (level + 1) m = '"' :: cs := by
        obtain ⟨key, value⟩ := m
        exact ⟨_, rfl⟩
      rw [hcs, List.cons_append] at hfirst
      have hobject := value?_object (blank_newline s (level + 1)) hfirst hmore
      rw [show ofMembers ((some m.1, m.2) :: ms.map (fun m => (some m.1, m.2))) = .object (m :: ms) from
        ofMembers_keys (m :: ms)] at hobject
      simpa only [chars, hcs, List.cons_append, List.append_assoc, List.nil_append] using hobject

/-- The items behind the first one are read back up to the closing bracket. -/
theorem items?_itemsChars {s : Spacing} (hs : s.Proper) (items : List Json) (hitems : legibleItems items = true)
    (level fuel : Nat) (hfuel : (itemsChars s level items).length < fuel) {sp : List Char} (hsp : Blank sp)
    (rest : List Char) : items? fuel (itemsChars s level items ++ (sp ++ ']' :: rest)) = some (items, rest) := by
  obtain ⟨fuel, rfl⟩ := Nat.exists_eq_succ_of_ne_zero (Nat.ne_of_gt (Nat.zero_lt_of_lt hfuel))
  match items with
  | [] =>
      simp only [itemsChars, List.nil_append]
      rw [items?, skipSpace_append hsp, skipSpace_cons rfl]
      rfl
  | item :: items =>
      obtain ⟨hitem, hitems⟩ := Bool.and_eq_true_iff.1 hitems
      simp only [itemsChars, List.length_append, List.length_cons] at hfuel
      have hfirst := value?_chars hs item hitem level fuel (by omega)
        (closes_items s level items hsp rest)
      have hmore := items?_itemsChars hs items hitems level fuel (by omega) hsp rest
      simp only [itemsChars, List.cons_append, List.append_assoc]
      rw [items?, skipSpace_cons rfl]
      simp only [value?_blank_append (blank_newline s level), hfirst, hmore, Option.bind_eq_bind, Option.bind_some]

/-- A member is read back from its text. -/
theorem pair?_memberChars {s : Spacing} (hs : s.Proper) (m : String × Json) (hm : m.2.legible = true)
    (level fuel : Nat) (hfuel : (memberChars s level m).length < fuel) {rest : List Char} (hrest : Closes rest) :
    pair? fuel (memberChars s level m ++ rest) = some ((some m.1, m.2), rest) := by
  obtain ⟨fuel, rfl⟩ := Nat.exists_eq_succ_of_ne_zero (Nat.ne_of_gt (Nat.zero_lt_of_lt hfuel))
  match m with
  | (key, value) =>
      have hproper := hs
      obtain ⟨sp, hcolon, hsp⟩ := hs
      simp only [memberChars, quoted, hcolon, List.length_append, List.length_cons] at hfuel
      have hvalue := value?_chars hproper value hm level fuel (by omega) hrest
      simp only [memberChars, quoted, hcolon, List.cons_append, List.append_assoc, List.nil_append]
      rw [pair?, skipSpace_cons rfl]
      simp only [string?_escaped, Option.bind_eq_bind, Option.bind_some, skipSpace_cons (c := ':') rfl,
        value?_blank_append hsp, hvalue]

/-- The members behind the first one are read back up to the closing brace. -/
theorem members?_membersChars {s : Spacing} (hs : s.Proper) (ms : List (String × Json))
    (hms : legibleMembers ms = true) (level fuel : Nat) (hfuel : (membersChars s level ms).length < fuel)
    {sp : List Char} (hsp : Blank sp) (rest : List Char) :
    members? fuel (membersChars s level ms ++ (sp ++ '\x7d' :: rest)) =
      some (ms.map (fun m => (some m.1, m.2)), rest) := by
  obtain ⟨fuel, rfl⟩ := Nat.exists_eq_succ_of_ne_zero (Nat.ne_of_gt (Nat.zero_lt_of_lt hfuel))
  match ms with
  | [] =>
      simp only [membersChars, List.nil_append]
      rw [members?, skipSpace_append hsp, skipSpace_cons rfl, List.map_nil]
      rfl
  | m :: ms =>
      obtain ⟨hm, hms⟩ := Bool.and_eq_true_iff.1 hms
      simp only [membersChars, List.length_append, List.length_cons] at hfuel
      have hfirst := pair?_memberChars hs m hm level fuel (by omega)
        (closes_members s level ms hsp rest)
      have hmore := members?_membersChars hs ms hms level fuel (by omega) hsp rest
      simp only [membersChars, List.cons_append, List.append_assoc]
      rw [members?, skipSpace_cons rfl]
      simp only [pair?_blank_append (blank_newline s level), hfirst, hmore, Option.bind_eq_bind, Option.bind_some,
        List.map_cons]

end

/-- **Reading what was written.**  A tree without unreadable parts is read back from its text, with white space
behind it. -/
theorem read?_chars {s : Spacing} (hs : s.Proper) {j : Json} (hj : j.legible = true) {sp : List Char}
    (hsp : Blank sp) : read? (String.ofList (chars s 0 j ++ sp)) = some j := by
  have hend : Closes [] := nofun
  have hcloses : Closes sp := by simpa using closes_blank_append hsp hend
  have hvalue : value? ((chars s 0 j ++ sp).length + 1) (chars s 0 j ++ sp) = some (j, sp) :=
    value?_chars hs j hj 0 _ (by rw [List.length_append]; omega) hcloses
  simp only [read?, String.toList_ofList, hvalue, skipSpace_blank hsp, if_true]

/-- Files hold a tree in lines, with a line end behind it. -/
theorem read?_pretty {j : Json} (hj : j.legible = true) : read? (j.pretty ++ "\n") = some j := by
  have hblank : Blank ['\n'] := by simp [Blank, isSpace]
  have htext : j.pretty ++ "\n" = String.ofList (chars .pretty 0 j ++ ['\n']) := by
    simp [pretty, String.ofList_append]
  rw [htext, read?_chars Spacing.proper_pretty hj hblank]

end SupplyRisk.Json
