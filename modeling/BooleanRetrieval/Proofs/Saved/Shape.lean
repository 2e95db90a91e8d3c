import BooleanRetrieval.Console.SearchProgram
import BooleanRetrieval.Proofs.Files.Written
import BooleanRetrieval.Proofs.Runs
import BooleanRetrieval.Proofs.Store.Presence

/-!
# The shape of saved stores

A JSON file may hold any value, and the loaders take it for a store without asking. Which errors of
theirs come from the shape of the value, and not from what is written in it, is said here of the value
alone: an index wants an object of objects, whose entries are frequencies or can be shown in a report
(`HasIndexShape`), and a matrix reads its members and their items one after the other, so that the first
flaw decides (`FirstFlaw`). The search program does not foresee exactly these errors
(`InvertedIndex.unforeseen_iff`, `IncidenceMatrix.unforeseen_iff`).
-/

set_option autoImplicit false

namespace BooleanRetrieval

open Text (isBlankText)

/-! ## JSON files -/

/-- A JSON file whose text is no store: its arrays and objects nest deeper than the limit, or it is the text
of a value without the shape of a store. -/
def Misshapen (limit : Nat) (Shapeless : Json → Prop) (tree : FileTree) (path : Path) : Prop :=
  StoreFormat.ofPath path = .json ∧ ∃ bytes text, tree.find path = .ok (.file bytes) ∧
    Encoding.decodeUtf8 bytes = .ok text ∧
    ((∃ e isArray, Json.parse limit (Text.unifyBreaks text) = .error e ∧ e.fault = .nesting isArray) ∨
      ∃ value, Json.parse limit (Text.unifyBreaks text) = .ok value ∧ Shapeless value)

/-- The value that bytes are the JSON text of, taken for a store. -/
def jsonOutcome {α : Type} (limit : Nat) (ofValue : Json → Except LoadError α) (bytes : List UInt8) :
    Except LoadError α := do
  let text ← (Encoding.decodeUtf8 bytes).mapError .encoding
  ofValue (← (Json.parse limit (Text.unifyBreaks text)).mapError .json)

/-- Of what is wrong with a JSON text only too deep a nesting is not foreseen. -/
theorem isForeseen_json_eq_false {e : Json.Error} :
    (LoadError.json e).isForeseen = false ↔ ∃ isArray, e.fault = .nesting isArray := by
  obtain ⟨fault, offset, line, column⟩ := e
  cases fault <;> simp [LoadError.isForeseen]

/-- If the errors of a value that are not foreseen are those of its shape, those of a text are too, but
for its nesting. -/
theorem unforeseen_jsonOutcome_iff {α : Type} {ofValue : Json → Except LoadError α}
    {Shapeless : Json → Prop}
    (hvalue : ∀ value,
      (∃ e, ofValue value = .error e ∧ e.isForeseen = false) ↔ Shapeless value)
    (limit : Nat) (bytes : List UInt8) :
    (∃ e, jsonOutcome limit ofValue bytes = .error e ∧ e.isForeseen = false) ↔
      ∃ text, Encoding.decodeUtf8 bytes = .ok text ∧
        ((∃ e isArray, Json.parse limit (Text.unifyBreaks text) = .error e ∧
            e.fault = .nesting isArray) ∨
          ∃ value, Json.parse limit (Text.unifyBreaks text) = .ok value ∧ Shapeless value) := by
  unfold jsonOutcome
  cases Encoding.decodeUtf8 bytes with
  | error e => simp [Except.mapError, bind, Except.bind, LoadError.isForeseen]
  | ok text =>
    cases hparse : Json.parse limit (Text.unifyBreaks text) with
    | error e =>
      have hjson := isForeseen_json_eq_false (e := e)
      simp [Except.mapError, bind, Except.bind, hparse, hjson]
    | ok value => simp [Except.mapError, bind, Except.bind, hparse, hvalue]

/-- The bytes that a path is read as are those of a file. -/
theorem savedBytes_eq_ok_iff {tree : FileTree} {path : Path} {bytes : List UInt8} :
    savedBytes tree path = .ok bytes ↔ tree.find path = .ok (.file bytes) := by
  refine ⟨?_, savedBytes_of_find⟩
  intro h
  unfold savedBytes at h
  split at h
  · cases h
  · cases h
  · unfold FileTree.read at h
    split at h
    · next bytes' hfind =>
      obtain rfl := Except.ok.inj h
      exact hfind
    · cases h
    · cases h

/-- That a file cannot be read is foreseen, whatever the reason. -/
theorem isForeseen_of_savedBytes {tree : FileTree} {path : Path} {e : LoadError}
    (h : savedBytes tree path = .error e) : e.isForeseen = true := by
  unfold savedBytes at h
  split at h
  · obtain rfl := Except.error.inj h
    rfl
  · obtain rfl := Except.error.inj h
    rfl
  · cases hread : tree.read path path.text with
    | error e' =>
      rw [hread] at h
      obtain rfl := Except.error.inj h
      rfl
    | ok bytes =>
      rw [hread] at h
      cases h

/-- Of all files only misshapen JSON files end a loading in an error that is not foreseen, if lines and
values of the right shape do not. -/
theorem unforeseen_load_iff {α : Type} (loadBytes : Path → StoreFormat → List UInt8 → Loaded α)
    {limit : Nat} {ofValue : Path → Json → Except LoadError α} {Shapeless : Json → Prop}
    (hlines : ∀ path bytes e, (loadBytes path .lines bytes).outcome = .error e → e.isForeseen = true)
    (hjson : ∀ path bytes, (loadBytes path .json bytes).outcome =
      jsonOutcome limit (ofValue path) bytes)
    (hvalue : ∀ path value,
      (∃ e, ofValue path value = .error e ∧ e.isForeseen = false) ↔ Shapeless value)
    (tree : FileTree) (path : Path) :
    (∃ e, (match savedBytes tree path with
      | .error e => ⟨.error e, []⟩
      | .ok bytes => loadBytes path (.ofPath path) bytes : Loaded α).outcome = .error e ∧
        e.isForeseen = false) ↔ Misshapen limit Shapeless tree path := by
  cases hbytes : savedBytes tree path with
  | error e =>
    have hforeseen := isForeseen_of_savedBytes hbytes
    constructor
    · rintro ⟨e', herror, hunforeseen⟩
      obtain rfl := Except.error.inj herror
      rw [hforeseen] at hunforeseen
      cases hunforeseen
    · rintro ⟨-, bytes, text, hfind, -⟩
      rw [savedBytes_of_find hfind] at hbytes
      cases hbytes
  | ok bytes =>
    have hfind := savedBytes_eq_ok_iff.mp hbytes
    cases hformat : StoreFormat.ofPath path with
    | lines =>
      constructor
      · rintro ⟨e, herror, hunforeseen⟩
        -- nothing is wrong with lines that is not foreseen
        rw [hlines path bytes e herror] at hunforeseen
        cases hunforeseen
      · rintro ⟨hjsonFormat, -⟩
        rw [hformat] at hjsonFormat
        cases hjsonFormat
    | json =>
      dsimp only
      rw [hjson, unforeseen_jsonOutcome_iff (hvalue path)]
      constructor
      · rintro ⟨text, htext, hflaw⟩
        exact ⟨hformat, bytes, text, hfind, htext, hflaw⟩
      · rintro ⟨-, bytes', text, hfind', htext, hflaw⟩
        rw [hfind] at hfind'
        cases hfind'
        exact ⟨text, htext, hflaw⟩

/-! ## Indexes -/

namespace InvertedIndex

/-- A value that is read as the entry of a document: it is a frequency, or else it has so few levels that a
report can show it. -/
def ReadableEntry (shown : Nat) (value : Json) : Prop :=
  (frequencyOf? value).isSome ∨ value.levels ≤ shown

/-- A value that is read as the object of a term. -/
def ReadableTerm (shown : Nat) (value : Json) : Prop :=
  ∃ entries, value = .object entries ∧ ∀ entry ∈ entries, ReadableEntry shown entry.2

/-- A value that is read as entries by document by term. -/
def HasIndexShape (shown : Nat) (value : Json) : Prop :=
  ∃ members, value = .object members ∧ ∀ m ∈ members, ReadableTerm shown m.2

/-- The index of a JSON value. -/
def ofValue (shown : Nat) (path : Path) : Json → Except LoadError InvertedIndex
  | .object members =>
    let (s, error) := loadTerms shown path.text .empty members
    (s.close error).outcome
  | value => .error (.noMembers value.kindName)

/-- Loading an index from a JSON file makes it of the value of the file. -/
theorem loadBytes_json (limits : NestingLimits) (path : Path) (bytes : List UInt8) :
    (loadBytes path .json bytes limits).outcome =
      jsonOutcome limits.json (ofValue limits.shown path) bytes := by
  unfold loadBytes jsonOutcome
  dsimp only
  cases Encoding.decodeUtf8 bytes with
  | error e => rfl
  | ok text =>
    dsimp only
    cases hparse : Json.parse limits.json (Text.unifyBreaks text) with
    | error e => simp [Except.mapError, bind, Except.bind, hparse, Loading.close]
    | ok value =>
      cases value <;> simp [Except.mapError, bind, Except.bind, hparse, Loading.close, ofValue]

/-- What stops the loading of text entries is foreseen. -/
theorem isForeseen_of_loadEntries {path : String} {s : Loading} {entries : List Sections.Entry}
    {e : LoadError} (h : (loadEntries path s entries).2 = some e) : e.isForeseen = true := by
  induction entries generalizing s with
  | nil => cases h
  | cons entry entries ih =>
    rw [loadEntries] at h
    split at h
    · exact ih h
    · exact ih h
    · obtain rfl := Option.some.inj h
      rfl

/-- What stops the loading of a text file is foreseen. -/
theorem isForeseen_of_loadBytes_lines (limits : NestingLimits) (path : Path) (bytes : List UInt8)
    (e : LoadError) (h : (loadBytes path .lines bytes limits).outcome = .error e) :
    e.isForeseen = true := by
  unfold loadBytes at h
  dsimp only at h
  cases herror : (loadEntries path.text .empty
      (Sections.entries (Encoding.readLines bytes).1)).2 with
  | some e' =>
    rw [herror] at h
    obtain rfl := Except.error.inj h
    exact isForeseen_of_loadEntries herror
  | none =>
    rw [herror] at h
    cases hfault : (Encoding.readLines bytes).2 with
    | none =>
      rw [hfault] at h
      cases h
    | some fault =>
      rw [hfault] at h
      obtain rfl := Except.error.inj h
      rfl

/-- Reading the entries of a term ends in an error exactly if one of them is not readable, and then the error
is not foreseen. -/
theorem loadPostings_error_cases (shown : Nat) (path t : String) (s : Loading)
    (entries : List (String × Json)) :
    (∃ e, (loadPostings shown path t s entries).2 = some e ∧ e.isForeseen = false) ∧
        (¬ ∀ entry ∈ entries, ReadableEntry shown entry.2) ∨
      (loadPostings shown path t s entries).2 = none ∧
        ∀ entry ∈ entries, ReadableEntry shown entry.2 := by
  induction entries generalizing s with
  | nil => exact .inr ⟨rfl, fun entry hentry => absurd hentry List.not_mem_nil⟩
  | cons entry rest ih =>
    obtain ⟨doc, value⟩ := entry
    simp only [List.forall_mem_cons]
    -- What is left out and what is added are followed by the same reading of the rest.
    have hgo : ∀ s', ReadableEntry shown value →
        (∃ e, (loadPostings shown path t s' rest).2 = some e ∧ e.isForeseen = false) ∧
            (¬ (ReadableEntry shown value ∧ ∀ entry ∈ rest, ReadableEntry shown entry.2)) ∨
          (loadPostings shown path t s' rest).2 = none ∧
            ReadableEntry shown value ∧ ∀ entry ∈ rest, ReadableEntry shown entry.2 := by
      intro s' hvalue
      rcases ih s' with ⟨herror, hnot⟩ | ⟨hnone, hall⟩
      · exact .inl ⟨herror, fun hall => hnot hall.2⟩
      · exact .inr ⟨hnone, hvalue, hall⟩
    rw [loadPostings]
    cases hfrequency : frequencyOf? value with
    | some n => exact hgo _ (.inl (by rw [hfrequency]; rfl))
    | none =>
      unfold Json.describeWithin
      by_cases hlevels : value.levels ≤ shown
      · rw [if_pos hlevels]
        exact hgo _ (.inr hlevels)
      · rw [if_neg hlevels]
        refine .inl ⟨⟨_, rfl, rfl⟩, ?_⟩
        rintro ⟨hsome | hle, -⟩
        · rw [hfrequency] at hsome
          cases hsome
        · exact hlevels hle

/-- Reading the members of an index ends in an error exactly if one of them is not readable, and then the
error is not foreseen. -/
theorem loadTerms_error_cases (shown : Nat) (path : String) (s : Loading)
    (members : List (String × Json)) :
    (∃ e, (loadTerms shown path s members).2 = some e ∧ e.isForeseen = false) ∧
        (¬ ∀ m ∈ members, ReadableTerm shown m.2) ∨
      (loadTerms shown path s members).2 = none ∧ ∀ m ∈ members, ReadableTerm shown m.2 := by
  induction members generalizing s with
  | nil => exact .inr ⟨rfl, fun m hm => absurd hm List.not_mem_nil⟩
  | cons member rest ih =>
    obtain ⟨t, value⟩ := member
    simp only [List.forall_mem_cons]
    cases value with
    | object entries =>
      rw [loadTerms]
      rcases hread : loadPostings shown path t s entries with ⟨s', error⟩
      have hentries := loadPostings_error_cases shown path t s entries
      rw [hread] at hentries
      rcases hentries with ⟨⟨e, rfl, hunforeseen⟩, hnot⟩ | ⟨rfl, hall⟩
      · refine .inl ⟨⟨e, rfl, hunforeseen⟩, ?_⟩
        rintro ⟨⟨entries', heq, hall⟩, -⟩
        obtain rfl := Json.object.inj heq
        exact hnot hall
      · rcases ih s' with ⟨herror, hnot⟩ | ⟨hnone, hrest⟩
        · exact .inl ⟨herror, fun hall => hnot hall.2⟩
        · exact .inr ⟨hnone, ⟨entries, rfl, hall⟩, hrest⟩
    | null | bool | int | real | nan | infinity | string | array =>
      refine .inl ⟨⟨_, rfl, rfl⟩, ?_⟩
      rintro ⟨⟨entries, heq, -⟩, -⟩
      cases heq

/-- The errors of a value that are not foreseen are those of its shape. -/
theorem unforeseen_ofValue_iff (shown : Nat) (path : Path) (value : Json) :
    (∃ e, ofValue shown path value = .error e ∧ e.isForeseen = false) ↔
      ¬ HasIndexShape shown value := by
  cases value with
  | object members =>
    have hshape : HasIndexShape shown (.object members) ↔ ∀ m ∈ members, ReadableTerm shown m.2 := by
      constructor
      · rintro ⟨members', heq, hall⟩
        obtain rfl := Json.object.inj heq
        exact hall
      · exact fun hall => ⟨members, rfl, hall⟩
    rw [hshape]
    unfold ofValue
    dsimp only
    rcases loadTerms_error_cases shown path.text .empty members with
      ⟨⟨e, herror, hunforeseen⟩, hnot⟩ | ⟨hnone, hall⟩
    · rw [herror]
      exact ⟨fun _ => hnot, fun _ => ⟨_, rfl, hunforeseen⟩⟩
    · rw [hnone]
      refine ⟨?_, fun hnot => absurd hall hnot⟩
      rintro ⟨e, herror, -⟩
      cases herror
  | null | bool | int | real | nan | infinity | string | array =>
    refine ⟨fun _ => ?_, fun _ => ⟨_, rfl, rfl⟩⟩
    rintro ⟨members, heq, -⟩
    cases heq

/-- Loading an index ends in an error that is not foreseen exactly for a JSON file that nests too deeply or
whose value has not the shape of an index. -/
theorem unforeseen_iff (limits : NestingLimits) (tree : FileTree) (path : Path) :
    (∃ e, (load tree path limits).outcome = .error e ∧ e.isForeseen = false) ↔
      Misshapen limits.json (¬ HasIndexShape limits.shown ·) tree path :=
  unforeseen_load_iff (loadBytes · · · limits) (isForeseen_of_loadBytes_lines limits)
    (loadBytes_json limits) (unforeseen_ofValue_iff limits.shown) tree path

end InvertedIndex

/-! ## Matrices -/

namespace IncidenceMatrix

/-- An item that is filed as a document of a term. -/
def Fileable (t : String) (item : Json) : Prop :=
  ∃ doc, item = .string doc ∧ isBlankText t = false ∧ isBlankText doc = false

/-- An item without the shape of a document id, below a term that is not refused before. Null is not
misshapen but refused. -/
def OddItem (t : String) (item : Json) : Prop :=
  isBlankText t = false ∧ item ≠ .null ∧ ∀ doc, item ≠ .string doc

/-- A member all of whose items are filed. -/
def FileableMember (member : String × Json) : Prop :=
  ∃ items, listed member.2 = .ok items ∧ ∀ item ∈ items, Fileable member.1 item

/-- A member whose value lists nothing, or of whose items the first that is not filed is misshapen. -/
def OddMember (member : String × Json) : Prop :=
  (∃ kind, listed member.2 = .error (.noItems kind)) ∨
    ∃ items, listed member.2 = .ok items ∧
      FirstFlaw (Fileable member.1) (OddItem member.1) items

/-- A value that is no object, or of whose members the first that is not filed is misshapen. -/
def Shapeless (value : Json) : Prop :=
  (∀ members, value ≠ .object members) ∨
    ∃ members, value = .object members ∧ FirstFlaw FileableMember OddMember members

/-- A string is filed as a document id unless it or the term is blank. -/
theorem addListed_string (matrix : IncidenceMatrix) (t doc : String) :
    matrix.addListed t (.string doc) =
      if isBlankText t then .error (.cell .blankTerm)
      else if isBlankText doc then .error (.cell .blankDocument)
      else .ok (matrix.set t doc) := by
  unfold addListed
  dsimp only
  rw [add_eq]
  split
  · rfl
  · split <;> rfl

/-- The items that are accepted are the ones that can be filed. -/
theorem addListed_ok_iff (t : String) (matrix : IncidenceMatrix) (item : Json) :
    (∃ matrix', matrix.addListed t item = .ok matrix') ↔ Fileable t item := by
  cases item with
  | string doc =>
    rw [addListed_string]
    cases ht : isBlankText t <;> cases hdoc : isBlankText doc <;> simp [Fileable, ht, hdoc]
  | null =>
    cases ht : isBlankText t <;>
      simp [Fileable, addListed, add?, Option.filter, ht, Except.mapError]
  | bool | int | real | nan | infinity | array | object =>
    cases ht : isBlankText t <;> simp [Fileable, addListed, ht]

/-- The items that fail in an unforeseen way are the misshapen ones. -/
theorem addListed_odd_iff (t : String) (matrix : IncidenceMatrix) (item : Json) :
    (∃ e, matrix.addListed t item = .error e ∧ e.isForeseen = false) ↔ OddItem t item := by
  cases item with
  | string doc =>
    rw [addListed_string]
    cases ht : isBlankText t <;> cases hdoc : isBlankText doc <;>
      simp [OddItem, LoadError.isForeseen, ht]
  | null =>
    cases ht : isBlankText t <;>
      simp [OddItem, addListed, add?, Option.filter, ht, Except.mapError, LoadError.isForeseen]
  | bool | int | real | nan | infinity | array | object =>
    cases ht : isBlankText t <;> simp [OddItem, addListed, ht, LoadError.isForeseen]

/-- Add the items of a member. -/
def addMember (matrix : IncidenceMatrix) (member : String × Json) :
    Except LoadError IncidenceMatrix := do
  (← listed member.2).foldlM (fun matrix item => matrix.addListed member.1 item) matrix

/-- A value that lists nothing fails for its kind. -/
theorem exists_of_listed_error {value : Json} {e : LoadError} (h : listed value = .error e) :
    ∃ kind, e = .noItems kind := by
  cases value with
  | array | string | object => cases h
  | null | bool | int | real | nan | infinity => exact ⟨_, (Except.error.inj h).symm⟩

/-- The members that are accepted are those with items that can be filed. -/
theorem addMember_ok_iff (matrix : IncidenceMatrix) (member : String × Json) :
    (∃ matrix', matrix.addMember member = .ok matrix') ↔ FileableMember member := by
  unfold addMember FileableMember
  cases hlisted : listed member.2 with
  | error e =>
    constructor
    · rintro ⟨matrix', herror⟩
      cases herror
    · rintro ⟨items, herror, -⟩
      cases herror
  | ok items =>
    refine (foldlM_ok_iff (addListed_ok_iff member.1)).trans ?_
    constructor
    · exact fun hall => ⟨items, rfl, hall⟩
    · rintro ⟨items', heq, hall⟩
      cases heq
      exact hall

/-- The members that fail in an unforeseen way are the misshapen ones. -/
theorem addMember_odd_iff (matrix : IncidenceMatrix) (member : String × Json) :
    (∃ e, matrix.addMember member = .error e ∧ e.isForeseen = false) ↔ OddMember member := by
  unfold addMember OddMember
  cases hlisted : listed member.2 with
  | error e =>
    obtain ⟨kind, rfl⟩ := exists_of_listed_error hlisted
    exact ⟨fun _ => .inl ⟨kind, rfl⟩, fun _ => ⟨_, rfl, rfl⟩⟩
  | ok items =>
    refine (foldlM_odd_iff (addListed_ok_iff member.1) (addListed_odd_iff member.1)).trans ?_
    constructor
    · exact fun hflaw => .inr ⟨items, rfl, hflaw⟩
    · rintro (⟨kind, herror⟩ | ⟨items', heq, hflaw⟩)
      · cases herror
      · cases heq
        exact hflaw

/-- The values that fail in an unforeseen way are those without the shape of a matrix. -/
theorem unforeseen_ofJson_iff (value : Json) :
    (∃ e, ofJson value = .error e ∧ e.isForeseen = false) ↔ Shapeless value := by
  cases value with
  | object members =>
    have hshape : Shapeless (.object members) ↔ FirstFlaw FileableMember OddMember members := by
      constructor
      · rintro (hnone | ⟨members', heq, hflaw⟩)
        · exact absurd rfl (hnone members)
        · obtain rfl := Json.object.inj heq
          exact hflaw
      · exact fun hflaw => .inr ⟨members, rfl, hflaw⟩
    rw [hshape]
    exact foldlM_odd_iff addMember_ok_iff addMember_odd_iff
  | null | bool | int | real | nan | infinity | string | array =>
    refine ⟨fun _ => .inl fun members heq => ?_, fun _ => ⟨_, rfl, rfl⟩⟩
    cases heq

/-- What stops the loading of text entries is foreseen. -/
theorem isForeseen_of_loadEntries {path : String} {matrix : IncidenceMatrix}
    {reports : List LogRecord} {entries : List Sections.Entry} {e : LoadError}
    (h : (loadEntries path matrix reports entries).outcome = .error e) : e.isForeseen = true := by
  induction entries generalizing matrix reports with
  | nil => cases h
  | cons entry entries ih =>
    rw [loadEntries] at h
    split at h
    · exact ih h
    · split at h
      · exact ih h
      · obtain rfl := Except.error.inj h
        rfl

/-- What stops the loading of a text file is foreseen. -/
theorem isForeseen_of_loadBytes_lines (limits : NestingLimits) (path : Path) (bytes : List UInt8)
    (e : LoadError) (h : (loadBytes path .lines bytes limits).outcome = .error e) :
    e.isForeseen = true := by
  unfold loadBytes at h
  dsimp only at h
  split at h
  · obtain rfl := Except.error.inj h
    rfl
  · exact isForeseen_of_loadEntries h

/-- Loading a matrix ends in an error that is not foreseen exactly for a JSON file that is shapeless or
nests too deeply. -/
theorem unforeseen_iff (limits : NestingLimits) (tree : FileTree) (path : Path) :
    (∃ e, (load tree path limits).outcome = .error e ∧ e.isForeseen = false) ↔
      Misshapen limits.json Shapeless tree path :=
  unforeseen_load_iff (loadBytes · · · limits) (isForeseen_of_loadBytes_lines limits)
    (fun _ _ => rfl) (fun _ => unforeseen_ofJson_iff) tree path

end IncidenceMatrix

end BooleanRetrieval
