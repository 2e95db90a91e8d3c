import BooleanRetrieval.Proofs.Json.Scalars

/-!
# Reading back JSON

The reader is a left inverse of the writer (`parse_render`) on the values that a JSON text can hold
and the reader accepts (`Storable`): no decimal fractions, numbers and depths within its bounds, whatever
these are for depths, and no name twice in an object. A written text has no carriage return
(`return_notMem_render`), so that it is read from a file as it was written.
-/

set_option autoImplicit false

namespace BooleanRetrieval.Json

variable {limit : Nat}

/-! ## Values -/

/-- A value that can be written and read back where it stands in as many arrays and objects as the depth tells,
of which no more may nest than the limit tells. -/
inductive Storable (limit : Nat) : Nat → Json → Prop
  | null {depth : Nat} : Storable limit depth .null
  | bool {depth : Nat} (b : Bool) : Storable limit depth (.bool b)
  | int {depth : Nat} {n : Int} (hlength : (Nat.toDigits 10 n.natAbs).length ≤ maxDigits) :
      Storable limit depth (.int n)
  | nan {depth : Nat} : Storable limit depth .nan
  | infinity {depth : Nat} (negative : Bool) : Storable limit depth (.infinity negative)
  | string {depth : Nat} (s : String) : Storable limit depth (.string s)
  | array {depth : Nat} {items : List Json} (hdepth : depth < limit)
      (hitems : ∀ item ∈ items, Storable limit (depth + 1) item) : Storable limit depth (.array items)
  | object {depth : Nat} {members : List (String × Json)} (hdepth : depth < limit)
      (hnames : (members.map Prod.fst).Nodup)
      (hmembers : ∀ entry ∈ members, Storable limit (depth + 1) entry.2) :
      Storable limit depth (.object members)

/-- The first character of a written value is taken for the beginning of one. -/
structure Opening (c : Char) : Prop where
  not_space : isSpace c = false
  not_bracket : c ≠ ']'
  not_mark : c ≠ '\uFEFF'

/-- A digit opens a value. -/
theorem opening_of_isDigit {c : Char} (h : c.isDigit = true) : Opening c where
  not_space := by
    rw [isDigit_iff] at h
    simp only [isSpace, Bool.or_eq_false_iff, decide_eq_false_iff_not]
    refine ⟨⟨⟨?_, ?_⟩, ?_⟩, ?_⟩ <;> rintro rfl <;> revert h <;> decide
  not_bracket := by
    rintro rfl
    cases h
  not_mark := by
    rintro rfl
    cases h

/-- Before a character that is no space nothing is skipped. -/
theorem skipSpace_of_not_space {c : Char} (h : isSpace c = false) (cs : List Char) :
    skipSpace (c :: cs) = c :: cs := by
  unfold skipSpace
  rw [List.dropWhile_cons_of_neg (by simp [h])]

/-- A new line with its indentation is skipped. -/
theorem skipSpace_newline (depth : Nat) (cs : List Char) :
    skipSpace (newline depth ++ cs) = skipSpace cs := by
  unfold skipSpace newline
  have hspaces : ∀ c ∈ '\n' :: List.replicate (2 * depth) ' ', isSpace c = true := by
    intro c hc
    rcases List.mem_cons.mp hc with rfl | hc
    · rfl
    · rw [List.eq_of_mem_replicate hc]
      rfl
  exact List.dropWhile_append_of_pos hspaces

/-- A written value begins a value, and is read back before all that may follow it. -/
structure ReadsBack (limit depth : Nat) (value : Json) : Prop where
  opening : ∃ c cs, write depth value = c :: cs ∧ Opening c
  read : ∀ fuel rest, (write depth value).length ≤ fuel → Closed rest →
    readValue limit depth fuel (write depth value ++ rest) = .ok (value, rest)

/-- Nothing is skipped before a written value. -/
theorem ReadsBack.skipSpace {depth : Nat} {value : Json} (h : ReadsBack limit depth value)
    (rest : List Char) : skipSpace (write depth value ++ rest) = write depth value ++ rest := by
  obtain ⟨c, cs, hwrite, hopening⟩ := h.opening
  rw [hwrite, List.cons_append, skipSpace_of_not_space hopening.not_space]

/-- Where no string, array or object begins, a scalar is read. -/
theorem readValue_scalar {c : Char} (hquote : c ≠ '"') (hbracket : c ≠ '[') (hbrace : c ≠ '\x7b')
    (depth fuel : Nat) (cs : List Char) :
    readValue limit depth (fuel + 1) (c :: cs) = readScalar (c :: cs) := by
  rw [readValue]
  · exact fun _ heq => hquote (List.cons.inj heq).1
  · exact fun _ heq => hbracket (List.cons.inj heq).1
  · exact fun _ heq => hbrace (List.cons.inj heq).1

/-- A value whose text begins like a scalar is read back if its text is. -/
theorem readsBack_scalar {depth : Nat} {value : Json} {c : Char} {cs : List Char}
    (hwrite : write depth value = c :: cs) (hopening : Opening c) (hquote : c ≠ '"')
    (hbracket : c ≠ '[') (hbrace : c ≠ '\x7b')
    (hread : ∀ rest, Closed rest → readScalar (write depth value ++ rest) = .ok (value, rest)) :
    ReadsBack limit depth value where
  opening := ⟨c, cs, hwrite, hopening⟩
  read fuel rest hfuel hrest := by
    obtain ⟨fuel, rfl⟩ : ∃ smaller, fuel = smaller + 1 := by
      rw [hwrite, List.length_cons] at hfuel
      exact ⟨fuel - 1, by omega⟩
    have hscalar := hread rest hrest
    rw [hwrite, List.cons_append] at hscalar ⊢
    rw [readValue_scalar hquote hbracket hbrace, hscalar]

/-- A constant is read back. -/
theorem readsBack_constant {depth : Nat} (word : String) {value : Json}
    (h : (word, value) ∈ constants) (hwrite : write depth value = word.toList) :
    ReadsBack limit depth value := by
  obtain ⟨tail, hchars⟩ := exists_toList_of_mem_constants h
  have hfirst : ∀ word ∈ constants.map Prod.fst, isSpace (firstChar word) = false ∧
      firstChar word ≠ ']' ∧ firstChar word ≠ '\uFEFF' ∧ firstChar word ≠ '"' ∧
      firstChar word ≠ '[' ∧ firstChar word ≠ '\x7b' := by decide
  obtain ⟨hspace, hclose, hmark, hquote, hbracket, hbrace⟩ := hfirst _ (List.mem_map_of_mem h)
  refine readsBack_scalar (hwrite.trans hchars) ⟨hspace, hclose, hmark⟩ hquote hbracket hbrace ?_
  intro rest _
  rw [hwrite]
  exact readScalar_constant h rest

/-- A whole number with few enough digits is read back. -/
theorem readsBack_int {depth : Nat} {n : Int}
    (hlength : (Nat.toDigits 10 n.natAbs).length ≤ maxDigits) : ReadsBack limit depth (.int n) := by
  have hread : ∀ rest, Closed rest → readScalar (write depth (.int n) ++ rest) = .ok (.int n, rest) :=
    fun rest hrest => readScalar_int hlength hrest
  obtain ⟨c, digits, hdigits⟩ : ∃ c digits, Nat.toDigits 10 n.natAbs = c :: digits :=
    List.exists_cons_of_ne_nil Nat.toDigits_ne_nil
  have hc : c.isDigit = true := isDigit_of_mem_toDigits (hdigits ▸ List.mem_cons_self)
  have hwrite : write depth (.int n) = if n < 0 then '-' :: c :: digits else c :: digits := by
    rw [write, toList_toString_int, hdigits]
  by_cases hneg : n < 0
  · rw [if_pos hneg] at hwrite
    exact readsBack_scalar hwrite ⟨by decide, by decide, by decide⟩ (by decide) (by decide)
      (by decide) hread
  · rw [if_neg hneg] at hwrite
    refine readsBack_scalar hwrite (opening_of_isDigit hc) ?_ ?_ ?_ hread
    all_goals
      rintro rfl
      cases hc

/-- A string is read back. -/
theorem readsBack_string {depth : Nat} (s : String) : ReadsBack limit depth (.string s) where
  opening := ⟨_, _, rfl, by decide, by decide, by decide⟩
  read fuel rest hfuel _ := by
    have hwrite : write depth (.string s) = writeString s := by rw [write]
    obtain ⟨fuel, rfl⟩ : ∃ smaller, fuel = smaller + 1 := by
      rw [hwrite, writeString, List.length_cons] at hfuel
      exact ⟨fuel - 1, by omega⟩
    have hquoted := readQuoted_writeString s rest
    rw [hwrite]
    unfold writeString at hquoted ⊢
    rw [List.cons_append] at hquoted ⊢
    rw [readValue, hquoted]
    rfl

/-! ## Arrays -/

section

variable {depth fuel : Nat} {cs rest tail : List Char}

/-- An opening bracket with an item behind it begins the items of an array. -/
theorem readValue_array (hdepth : depth < limit) {c : Char} (hspace : skipSpace cs = c :: rest)
    (hc : c ≠ ']') :
    readValue limit depth (fuel + 1) ('[' :: cs) = readItems limit (depth + 1) fuel [] (c :: rest) := by
  rw [readValue, if_neg (Nat.not_le.mpr hdepth), hspace]
  split
  · next heq => exact absurd (List.cons.inj heq).1 hc
  · rfl

/-- An item with a closing bracket behind it ends the array. -/
theorem readItems_last {item : Json} (hitem : readValue limit depth fuel cs = .ok (item, rest))
    (hrest : skipSpace rest = ']' :: tail) (done : List Json) :
    readItems limit depth (fuel + 1) done cs = .ok (.array (item :: done).reverse, tail) := by
  rw [readItems, hitem]
  dsimp only
  rw [hrest]
  rfl

/-- An item with a comma behind it is followed by the next item. -/
theorem readItems_next {item : Json} (hitem : readValue limit depth fuel cs = .ok (item, rest))
    (hrest : skipSpace rest = ',' :: tail) (done : List Json) :
    readItems limit depth (fuel + 1) done cs =
      readItems limit depth fuel (item :: done) (skipSpace tail) := by
  rw [readItems, hitem]
  dsimp only
  rw [hrest]
  rfl

end

/-- What follows a written item may follow a value. -/
theorem closed_writeItems {depth outer : Nat} (items : List Json) (rest : List Char) :
    Closed (writeItems depth items ++ (newline outer ++ rest)) := by
  cases items with
  | nil => exact closed_cons (Or.inr rfl)
  | cons item items => exact closed_cons (Or.inl rfl)

/-- Items that are read back are read back together, the first of them without a comma. -/
theorem readItems_write {depth outer : Nat} {items : List Json} {item : Json} {fuel : Nat}
    {done : List Json} {rest : List Char} (hitem : ReadsBack limit depth item)
    (hitems : ∀ i ∈ items, ReadsBack limit depth i)
    (hfuel : (write depth item).length + (writeItems depth items).length < fuel) :
    readItems limit depth fuel done
        (write depth item ++ (writeItems depth items ++ (newline outer ++ ']' :: rest))) =
      .ok (.array (done.reverse ++ item :: items), rest) := by
  induction items generalizing item fuel done with
  | nil =>
    obtain ⟨fuel, rfl⟩ : ∃ smaller, fuel = smaller + 1 := ⟨fuel - 1, by omega⟩
    have hread := hitem.read fuel (writeItems depth [] ++ (newline outer ++ ']' :: rest)) (by omega)
      (closed_writeItems [] _)
    have hclose : skipSpace (writeItems depth [] ++ (newline outer ++ ']' :: rest)) = ']' :: rest := by
      rw [writeItems, List.nil_append, skipSpace_newline, skipSpace_of_not_space rfl]
    rw [readItems_last hread hclose, List.reverse_cons]
  | cons next items ih =>
    obtain ⟨fuel, rfl⟩ : ∃ smaller, fuel = smaller + 1 := ⟨fuel - 1, by omega⟩
    obtain ⟨hnext, hrest⟩ := List.forall_mem_cons.mp hitems
    have hwrite : writeItems depth (next :: items) =
        ',' :: (newline depth ++ (write depth next ++ writeItems depth items)) := by
      rw [writeItems, List.append_assoc]
    have hread := hitem.read fuel (writeItems depth (next :: items) ++ (newline outer ++ ']' :: rest))
      (by omega) (closed_writeItems (next :: items) _)
    have hcomma : skipSpace (writeItems depth (next :: items) ++ (newline outer ++ ']' :: rest)) =
        ',' :: (newline depth ++ (write depth next ++ (writeItems depth items ++
          (newline outer ++ ']' :: rest)))) := by
      rw [hwrite, List.cons_append, skipSpace_of_not_space rfl, List.append_assoc, List.append_assoc]
    rw [hwrite, List.length_cons, List.length_append, List.length_append] at hfuel
    rw [readItems_next hread hcomma, skipSpace_newline, hnext.skipSpace,
      ih hnext hrest (by omega), List.reverse_cons, List.append_assoc, List.singleton_append]

/-- An array is read back when its items are, one level deeper. -/
theorem readsBack_array {depth : Nat} {items : List Json} (hdepth : depth < limit)
    (hitems : ∀ item ∈ items, ReadsBack limit (depth + 1) item) :
    ReadsBack limit depth (.array items) where
  opening := by cases items <;> exact ⟨_, _, by rw [write], by decide, by decide, by decide⟩
  read fuel rest hfuel _ := by
    cases items with
    | nil =>
      obtain ⟨fuel, rfl⟩ : ∃ smaller, fuel = smaller + 1 := ⟨fuel - 1, by
        rw [write, List.length_cons] at hfuel
        omega⟩
      rw [write, List.cons_append, readValue, if_neg (Nat.not_le.mpr hdepth)]
      rfl
    | cons item items =>
      obtain ⟨hitem, hrest⟩ := List.forall_mem_cons.mp hitems
      have hwrite : write depth (.array (item :: items)) = '[' :: (newline (depth + 1) ++
          (write (depth + 1) item ++ (writeItems (depth + 1) items ++ (newline depth ++ [']'])))) := by
        rw [write, List.append_assoc, List.append_assoc, List.append_assoc]
      rw [hwrite] at hfuel ⊢
      simp only [List.length_cons, List.length_append, List.length_nil] at hfuel
      obtain ⟨fuel, rfl⟩ : ∃ smaller, fuel = smaller + 1 := ⟨fuel - 1, by omega⟩
      obtain ⟨c, cs, hfirst, hopening⟩ := hitem.opening
      have hspace : skipSpace (newline (depth + 1) ++ (write (depth + 1) item ++
          (writeItems (depth + 1) items ++ (newline depth ++ ']' :: rest)))) =
            c :: (cs ++ (writeItems (depth + 1) items ++ (newline depth ++ ']' :: rest))) := by
        rw [skipSpace_newline, hitem.skipSpace, hfirst, List.cons_append]
      simp only [List.cons_append, List.append_assoc, List.nil_append]
      rw [readValue_array hdepth hspace hopening.not_bracket, ← List.cons_append, ← hfirst,
        readItems_write hitem hrest (by omega)]
      rfl

/-! ## Objects -/

/-- Members with distinct names make an object as they are. -/
theorem objectOf_of_nodup {members : List (String × Json)} (h : (members.map Prod.fst).Nodup) :
    objectOf members = .object members := by
  unfold objectOf
  rw [OrderedMap.entries_foldl_insert members .empty h]
  rfl

section

variable {depth fuel : Nat} {cs rest tail : List Char}

/-- An opening brace with a name behind it begins the members of an object. -/
theorem readValue_object (hdepth : depth < limit) (hspace : skipSpace cs = '"' :: rest) :
    readValue limit depth (fuel + 1) ('\x7b' :: cs) =
      readMembers limit (depth + 1) fuel [] ('"' :: rest) := by
  rw [readValue, if_neg (Nat.not_le.mpr hdepth), hspace]
  rfl

/-- Reading a written member goes on with what follows its value. -/
theorem readMembers_member {name : String} {value : Json}
    (hvalue : readValue limit depth fuel cs = .ok (value, rest)) (hcs : skipSpace (' ' :: cs) = cs)
    (done : List (String × Json)) :
    readMembers limit depth (fuel + 1) done (writeString name ++ ':' :: ' ' :: cs) =
      match skipSpace rest with
      | '\x7d' :: rest => .ok (objectOf ((name, value) :: done).reverse, rest)
      | ',' :: rest => readMembers limit depth fuel ((name, value) :: done) (skipSpace rest)
      | rest => failAt .expectingComma rest := by
  have hname := readQuoted_writeString name (':' :: ' ' :: cs)
  unfold writeString at hname ⊢
  rw [List.cons_append] at hname ⊢
  rw [readMembers, hname]
  dsimp only
  rw [skipSpace_of_not_space rfl]
  split
  · next heq =>
    obtain ⟨-, rfl⟩ := List.cons.inj heq
    rewrite [hcs, hvalue]
    rfl
  · next hcolon => exact absurd rfl (hcolon _)

end

/-- What follows a written member may follow a value. -/
theorem closed_writeMembers {depth outer : Nat} (members : List (String × Json)) (rest : List Char) :
    Closed (writeMembers depth members ++ (newline outer ++ rest)) := by
  cases members with
  | nil => exact closed_cons (Or.inr rfl)
  | cons entry members => exact closed_cons (Or.inl rfl)

/-- Nothing is skipped before a written name. -/
theorem skipSpace_writeString (name : String) (rest : List Char) :
    skipSpace (writeString name ++ rest) = writeString name ++ rest :=
  skipSpace_of_not_space rfl _

/-- The blank before the value of a member is skipped, and no more. -/
theorem ReadsBack.skipSpace_cons {depth : Nat} {value : Json} (h : ReadsBack limit depth value)
    (rest : List Char) :
    Json.skipSpace (' ' :: (write depth value ++ rest)) = write depth value ++ rest :=
  h.skipSpace rest

/-- Members whose values are read back are read back together, the first of them without a comma. -/
theorem readMembers_write {depth outer : Nat} {members : List (String × Json)} {name : String}
    {value : Json} {fuel : Nat} {done : List (String × Json)} {rest : List Char}
    (hvalue : ReadsBack limit depth value) (hmembers : ∀ entry ∈ members, ReadsBack limit depth entry.2)
    (hfuel : (write depth value).length + (writeMembers depth members).length < fuel) :
    readMembers limit depth fuel done (writeString name ++ ':' :: ' ' :: (write depth value ++
        (writeMembers depth members ++ (newline outer ++ '\x7d' :: rest)))) =
      .ok (objectOf (done.reverse ++ (name, value) :: members), rest) := by
  induction members generalizing name value fuel done with
  | nil =>
    obtain ⟨fuel, rfl⟩ : ∃ smaller, fuel = smaller + 1 := ⟨fuel - 1, by omega⟩
    have hread := hvalue.read fuel (writeMembers depth [] ++ (newline outer ++ '\x7d' :: rest))
      (by omega) (closed_writeMembers [] _)
    have hclose : skipSpace (writeMembers depth [] ++ (newline outer ++ '\x7d' :: rest)) =
        '\x7d' :: rest := by
      rw [writeMembers, List.nil_append, skipSpace_newline, skipSpace_of_not_space rfl]
    rw [readMembers_member hread (hvalue.skipSpace_cons _), hclose, List.reverse_cons]
    rfl
  | cons next members ih =>
    obtain ⟨fuel, rfl⟩ : ∃ smaller, fuel = smaller + 1 := ⟨fuel - 1, by omega⟩
    obtain ⟨name', value'⟩ := next
    obtain ⟨hnext, hrest⟩ : ReadsBack limit depth value' ∧
        ∀ entry ∈ members, ReadsBack limit depth entry.2 := List.forall_mem_cons.mp hmembers
    have hwrite : writeMembers depth ((name', value') :: members) =
        ',' :: (newline depth ++ (writeString name' ++ ':' :: ' ' ::
          (write depth value' ++ writeMembers depth members))) := by
      rw [writeMembers]
      simp only [List.append_assoc, List.cons_append, List.nil_append]
    have hread := hvalue.read fuel
      (writeMembers depth ((name', value') :: members) ++ (newline outer ++ '\x7d' :: rest))
      (by omega) (closed_writeMembers (_ :: members) _)
    -- the reader takes the comma that is written before every member but the first
    have hcomma : skipSpace
        (writeMembers depth ((name', value') :: members) ++ (newline outer ++ '\x7d' :: rest)) =
        ',' :: (newline depth ++ (writeString name' ++ ':' :: ' ' :: (write depth value' ++
          (writeMembers depth members ++ (newline outer ++ '\x7d' :: rest))))) := by
      rw [hwrite, List.cons_append, skipSpace_of_not_space rfl]
      simp only [List.append_assoc, List.cons_append]
    rw [hwrite] at hfuel
    simp only [List.length_cons, List.length_append] at hfuel
    rw [readMembers_member hread (hvalue.skipSpace_cons _), hcomma]
    change readMembers limit depth fuel _ (skipSpace _) = _
    rw [skipSpace_newline, skipSpace_writeString, ih hnext hrest (by omega), List.reverse_cons,
      List.append_assoc, List.singleton_append]

/-- An object with distinct names is read back when its members are, one level deeper. -/
theorem readsBack_object {depth : Nat} {members : List (String × Json)} (hdepth : depth < limit)
    (hnames : (members.map Prod.fst).Nodup)
    (hmembers : ∀ entry ∈ members, ReadsBack limit (depth + 1) entry.2) :
    ReadsBack limit depth (.object members) where
  opening := by
    rcases members with - | ⟨entry, members⟩ <;>
      exact ⟨_, _, by rw [write], by decide, by decide, by decide⟩
  read fuel rest hfuel _ := by
    rcases members with - | ⟨⟨name, value⟩, members⟩
    · obtain ⟨fuel, rfl⟩ : ∃ smaller, fuel = smaller + 1 := ⟨fuel - 1, by
        rw [write, List.length_cons] at hfuel
        omega⟩
      rw [write, List.cons_append, readValue, if_neg (Nat.not_le.mpr hdepth)]
      rfl
    · obtain ⟨hvalue, hrest⟩ : ReadsBack limit (depth + 1) value ∧
          ∀ entry ∈ members, ReadsBack limit (depth + 1) entry.2 := List.forall_mem_cons.mp hmembers
      have hwrite : write depth (.object ((name, value) :: members)) =
          '\x7b' :: (newline (depth + 1) ++ (writeString name ++ ':' :: ' ' ::
            (write (depth + 1) value ++ (writeMembers (depth + 1) members ++
              (newline depth ++ ['\x7d']))))) := by
        rw [write]
        simp only [List.append_assoc, List.cons_append, List.nil_append]
      rw [hwrite] at hfuel ⊢
      simp only [List.length_cons, List.length_append, List.length_nil] at hfuel
      obtain ⟨fuel, rfl⟩ : ∃ smaller, fuel = smaller + 1 := ⟨fuel - 1, by omega⟩
      simp only [List.cons_append, List.append_assoc, List.nil_append]
      have hspace := skipSpace_newline (depth + 1) (writeString name ++ ':' :: ' ' ::
        (write (depth + 1) value ++ (writeMembers (depth + 1) members ++
          (newline depth ++ '\x7d' :: rest))))
      rw [skipSpace_writeString] at hspace
      rw [readValue_object hdepth hspace]
      change readMembers limit (depth + 1) fuel [] (writeString name ++ _) = _
      rw [readMembers_write hvalue hrest (by omega), List.reverse_nil, List.nil_append,
        objectOf_of_nodup hnames]

/-! ## Texts -/

/-- A storable value is read back where it stands. -/
theorem Storable.readsBack {depth : Nat} {value : Json} (h : Storable limit depth value) :
    ReadsBack limit depth value := by
  induction h with
  | null => exact readsBack_constant "null" (by simp [constants]) rfl
  | bool b =>
    cases b with
    | false => exact readsBack_constant "false" (by simp [constants]) rfl
    | true => exact readsBack_constant "true" (by simp [constants]) rfl
  | int hlength => exact readsBack_int hlength
  | nan => exact readsBack_constant "NaN" (by simp [constants]) rfl
  | infinity negative =>
    cases negative with
    | false => exact readsBack_constant "Infinity" (by simp [constants]) rfl
    | true => exact readsBack_constant "-Infinity" (by simp [constants]) rfl
  | string s => exact readsBack_string s
  | array hdepth hitems ih => exact readsBack_array hdepth ih
  | object hdepth hnames hmembers ih => exact readsBack_object hdepth hnames ih

/-- A written value is read back. -/
theorem parse_render {value : Json} (h : Storable limit 0 value) : parse limit value.render = .ok value := by
  obtain ⟨c, cs, hwrite, hopening⟩ := h.readsBack.opening
  have hread := h.readsBack.read (2 * (write 0 value).length + 2) [] (by omega) closed_nil
  have htext : readText limit (write 0 value) = .ok value := by
    have hspace := h.readsBack.skipSpace []
    rw [List.append_nil] at hspace hread
    unfold readText
    split
    · next heq => exact absurd (List.cons.inj (hwrite.symm.trans heq)).1 hopening.not_mark
    · rw [hspace, hread]
      rfl
  unfold parse render
  rw [htext]
  rfl

/-! ## Carriage returns -/

/-- A character of a string is written without a carriage return. -/
theorem return_notMem_writeChar (c : Char) : '\r' ∉ writeChar c := by
  have hhex : ∀ n < 32, '\r' ∉ '\\' :: 'u' :: Text.hex 4 n := by decide
  unfold writeChar
  split
  · next h =>
    simp only [Bool.or_eq_true, decide_eq_true_eq] at h
    rcases h with rfl | rfl <;> decide
  split
  · decide
  split
  · decide
  · next hreturn =>
    split
    · decide
    split
    · decide
    split
    · decide
    split
    · next hcontrol => exact hhex c.toNat hcontrol
    · exact fun hmem => hreturn (List.mem_singleton.mp hmem).symm

/-- A string is written without a carriage return. -/
theorem return_notMem_writeString (s : String) : '\r' ∉ writeString s := by
  unfold writeString
  simp only [List.mem_cons, List.mem_append, List.mem_flatMap, List.not_mem_nil, or_false]
  rintro (h | ⟨c, -, hc⟩ | h)
  · cases h
  · exact return_notMem_writeChar c hc
  · cases h

/-- A new line is written without a carriage return. -/
theorem return_notMem_newline (depth : Nat) : '\r' ∉ newline depth := by
  unfold newline
  intro h
  rcases List.mem_cons.mp h with h | h
  · cases h
  · cases List.eq_of_mem_replicate h

/-- The digits of a number have no carriage return. -/
theorem return_notMem_toDigits (n : Nat) : '\r' ∉ Nat.toDigits 10 n := by
  intro h
  cases isDigit_of_mem_toDigits h

/-- Items are written without a carriage return when each of them is. -/
theorem return_notMem_writeItems {depth : Nat} {items : List Json}
    (h : ∀ item ∈ items, '\r' ∉ write depth item) : '\r' ∉ writeItems depth items := by
  induction items with
  | nil =>
    rw [writeItems]
    exact List.not_mem_nil
  | cons item items ih =>
    obtain ⟨hitem, hitems⟩ := List.forall_mem_cons.mp h
    have hrest := ih hitems
    have hnewline := return_notMem_newline depth
    rw [writeItems]
    simp [hitem, hrest, hnewline]

/-- Members are written without a carriage return when their values are. -/
theorem return_notMem_writeMembers {depth : Nat} {members : List (String × Json)}
    (h : ∀ entry ∈ members, '\r' ∉ write depth entry.2) : '\r' ∉ writeMembers depth members := by
  induction members with
  | nil =>
    rw [writeMembers]
    exact List.not_mem_nil
  | cons entry members ih =>
    obtain ⟨name, value⟩ := entry
    obtain ⟨hvalue, hmembers⟩ : '\r' ∉ write depth value ∧
      ∀ entry ∈ members, '\r' ∉ write depth entry.2 := List.forall_mem_cons.mp h
    have hrest := ih hmembers
    have hname := return_notMem_writeString name
    have hnewline := return_notMem_newline depth
    rw [writeMembers]
    simp [hvalue, hrest, hname, hnewline]

/-- A value that can be stored is written without a carriage return, so no line break is translated in it. -/
theorem Storable.return_notMem_write {depth : Nat} {value : Json} (h : Storable limit depth value) :
    '\r' ∉ write depth value := by
  induction h with
  | null => rw [write]; decide
  | bool b => cases b <;> (rw [write]; decide)
  | @int depth n hlength =>
    have hdigits := return_notMem_toDigits n.natAbs
    rw [write, toList_toString_int]
    split
    · simp [hdigits]
    · exact hdigits
  | nan => rw [write]; decide
  | infinity negative => cases negative <;> (rw [write]; decide)
  | string s =>
    rw [write]
    exact return_notMem_writeString s
  | @array depth items hdepth hitems ih =>
    cases items with
    | nil => rw [write]; decide
    | cons item items =>
      obtain ⟨hitem, hrest⟩ := List.forall_mem_cons.mp ih
      have hitems := return_notMem_writeItems hrest
      have hnewline := return_notMem_newline
      rw [write]
      simp [hitem, hitems, hnewline]
  | @object depth members hdepth hnames hmembers ih =>
    rcases members with - | ⟨⟨name, value⟩, members⟩
    · rw [write]; decide
    · obtain ⟨hvalue, hrest⟩ : '\r' ∉ write (depth + 1) value ∧
        ∀ entry ∈ members, '\r' ∉ write (depth + 1) entry.2 := List.forall_mem_cons.mp ih
      have hmembers := return_notMem_writeMembers hrest
      have hname := return_notMem_writeString name
      have hnewline := return_notMem_newline
      rw [write]
      simp [hvalue, hmembers, hname, hnewline]

/-- A written text has no carriage return. -/
theorem return_notMem_render {value : Json} (h : Storable limit 0 value) : '\r' ∉ value.render :=
  h.return_notMem_write

end BooleanRetrieval.Json
