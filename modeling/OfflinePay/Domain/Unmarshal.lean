import OfflinePay.Domain.Models

/-!
# Reading JSON

Reference: `encoding/json`, as the handlers of events use it.

`json.Unmarshal` into a struct takes, for every field, the member of that name up to case; a missing
member and `null` leave the zero value, and a member of another type is an error.
-/

namespace OfflinePay

namespace Json

/-- `encoding/json` compares the names of members up to simple case folding. Besides `A`–`Z` only
the Kelvin sign and the long s fold to an ASCII letter. -/
def foldRune (c : Char) : Char :=
  if c = Char.ofNat 0x212A then 'k' else if c = Char.ofNat 0x17F then 's' else c.toLower

/-- The member is decoded into the field of this name. -/
def matchesName (member name : String) : Bool :=
  member.toList.map foldRune == name.toList.map foldRune

/-- The members of a payload that can be decoded into a struct. -/
def members : Json → Option (List (String × Json))
  | .obj fields => some fields
  | .null => some []
  | _ => none

/-- The value for a field. Of several members that match, the last one counts. -/
def member? (fields : List (String × Json)) (name : String) : Option Json :=
  (fields.reverse.find? fun member => matchesName member.1 name).map Prod.snd

/-- A field of type `string`. The program writes no timestamp where a string is asked for. -/
def stringField (fields : List (String × Json)) (name : String) : Option String :=
  match member? fields name with
  | none | some .null => some ""
  | some (.str s) => some s
  | some _ => none

/-- A field of type `int` or `int64`. -/
def intField (fields : List (String × Json)) (name : String) : Option ℤ :=
  match member? fields name with
  | none | some .null => some 0
  | some (.num q) =>
    if q.isInt && -9223372036854775808 ≤ q.num && q.num ≤ 9223372036854775807 then some q.num else none
  | some _ => none

/-- A field of type `time.Time`. -/
def timeField (fields : List (String × Json)) (name : String) : Option Time :=
  match member? fields name with
  | none | some .null => some Time.zero
  | some (.time t) => some t
  | some _ => none

/-! ## Decoding into a struct -/

/-- The fields of a struct: their names, and how a member is decoded into them. -/
abbrev Fields (σ : Type) := List (String × (σ → Json → Option σ))

/-- The field that a member of this name is decoded into. -/
def fieldOf {σ : Type} (fields : Fields σ) (member : String) : Option (σ → Json → Option σ) :=
  (fields.find? fun field => matchesName member field.1).map Prod.snd

/-- One member: without a field of its name it is skipped. -/
def decodeMember {σ : Type} (fields : Fields σ) (s : σ) (member : String × Json) : Option σ :=
  match fieldOf fields member.1 with
  | some decode => decode s member.2
  | none => some s

/-- `json.Unmarshal` into a struct, a member after the other. -/
def decodeStruct {σ : Type} (fields : Fields σ) (s : σ) : Json → Option σ
  | .null => some s
  | .obj members => members.foldlM (decodeMember fields) s
  | _ => none

/-- `json.Marshal` of a struct whose fields have these values. -/
def encodeStruct {σ : Type} (fields : Fields σ) (values : List Json) : Json :=
  .obj (List.zipWith (fun field value => (field.1, value)) fields values)

/-- A member for a `string`. -/
def decodeString (old : String) : Json → Option String
  | .null => some old
  | .str s => some s
  | _ => none

/-- A member for an `int64`. -/
def decodeInt64 (old : Int64) : Json → Option Int64
  | .null => some old
  | .num q =>
    if q.isInt && -9223372036854775808 ≤ q.num && q.num ≤ 9223372036854775807 then
      some (Int64.ofInt q.num)
    else none
  | _ => none

/-! ## Looking up plain names -/

/-- The name is made of lower-case letters and underscores, as those of the program are. -/
def plainName (name : String) : Bool := name.toList.all fun c => ('a' ≤ c && c ≤ 'z') || c = '_'

theorem foldRune_of_plain {c : Char} (h : (('a' ≤ c && c ≤ 'z') || c = '_') = true) :
    foldRune c = c := by
  have hlow : c.toNat ≤ 122 := by
    simp only [Bool.or_eq_true, Bool.and_eq_true, decide_eq_true_eq] at h
    rcases h with ⟨-, h⟩ | rfl
    · exact h
    · decide
  have hup : 91 ≤ c.toNat := by
    simp only [Bool.or_eq_true, Bool.and_eq_true, decide_eq_true_eq] at h
    rcases h with ⟨h, -⟩ | rfl
    · exact le_trans (by decide) (show 'a'.toNat ≤ c.toNat from h)
    · decide
  have hkelvin : c ≠ Char.ofNat 0x212A := by
    rintro rfl
    exact absurd hlow (by decide)
  have hlong : c ≠ Char.ofNat 0x17F := by
    rintro rfl
    exact absurd hlow (by decide)
  rw [foldRune, if_neg hkelvin, if_neg hlong]
  refine dif_neg ?_
  rintro ⟨-, hle⟩
  have : c.toNat ≤ 90 := hle
  omega

/-- Plain names match if they are the same. -/
theorem matchesName_of_plain {member name : String} (hm : plainName member = true)
    (hn : plainName name = true) : matchesName member name = decide (member = name) := by
  have hfold : ∀ {s : String}, plainName s = true → s.toList.map foldRune = s.toList := by
    intro s hs
    refine (List.map_congr_left fun c hc => ?_).trans (List.map_id _)
    exact foldRune_of_plain (List.all_eq_true.mp hs c hc)
  rw [matchesName, hfold hm, hfold hn]
  by_cases h : member = name
  · simp [h]
  · have hlist : member.toList ≠ name.toList := fun heq => h (String.toList_inj.mp heq)
    simp [h, hlist]

/-- The names are plain and differ. -/
def PlainNames (names : List String) : Prop := (∀ name ∈ names, plainName name = true) ∧ names.Nodup

instance (names : List String) : Decidable (PlainNames names) := inferInstanceAs (Decidable (_ ∧ _))

theorem PlainNames.reverse {names : List String} (h : PlainNames names) : PlainNames names.reverse :=
  ⟨fun name hname => h.1 name (List.mem_reverse.mp hname), List.nodup_reverse.mpr h.2⟩

/-- Among plain names that differ, a name matches its own entry only. -/
theorem find?_matchesName {α : Type} {entries : List (String × α)} {name : String} {value : α}
    (hnames : PlainNames (entries.map Prod.fst)) (h : (name, value) ∈ entries) :
    entries.find? (fun entry => matchesName entry.1 name) = some (name, value) := by
  obtain ⟨hplain, hnodup⟩ := hnames
  have hmatches : ∀ entry ∈ entries, matchesName entry.1 name = decide (entry.1 = name) :=
    fun entry hentry => matchesName_of_plain (hplain _ (List.mem_map_of_mem hentry))
      (hplain _ (List.mem_map_of_mem h))
  obtain ⟨before, after, rfl⟩ := List.append_of_mem h
  rw [List.find?_eq_some_iff_append]
  refine ⟨by rw [hmatches _ h]; simp, before, after, rfl, fun entry hentry => ?_⟩
  -- an earlier entry of this name would be a second one
  have hne : entry.1 ≠ name := by
    rintro rfl
    simp only [List.map_append, List.map_cons, List.nodup_append] at hnodup
    exact hnodup.2.2 _ (List.mem_map_of_mem hentry) _ (List.mem_cons_self ..) rfl
  rw [hmatches _ (List.mem_append_left _ hentry)]
  simp [hne]

theorem member?_of_mem {fields : List (String × Json)} {name : String} {value : Json}
    (hnames : PlainNames (fields.map Prod.fst)) (h : (name, value) ∈ fields) :
    member? fields name = some value := by
  rw [member?, find?_matchesName (by rw [List.map_reverse]; exact hnames.reverse)
    (List.mem_reverse.mpr h), Option.map_some]

theorem stringField_eq {fields : List (String × Json)} {name s : String}
    (h : member? fields name = some (.str s)) : stringField fields name = some s := by
  rw [stringField, h]

theorem timeField_eq {fields : List (String × Json)} {name : String} {t : Time}
    (h : member? fields name = some (.time t)) : timeField fields name = some t := by
  rw [timeField, h]

/-- An `int64` is in the range of `int64`. -/
theorem int64_range (n : Int64) :
    ((n.toInt : ℚ).isInt && -9223372036854775808 ≤ (n.toInt : ℚ).num
      && (n.toInt : ℚ).num ≤ 9223372036854775807) = true := by
  have hlo := n.le_toInt
  have hhi := n.toInt_lt
  simp only [Bool.and_eq_true, decide_eq_true_eq]
  exact ⟨⟨by simp [Rat.isInt], hlo⟩, Int.le_of_lt_add_one hhi⟩

theorem intField_eq {fields : List (String × Json)} {name : String} {n : Int64}
    (h : member? fields name = some (.int64 n)) : intField fields name = some n.toInt := by
  rw [intField, h]
  exact if_pos (int64_range n)

@[simp] theorem decodeInt64_int64 (old n : Int64) : decodeInt64 old (.int64 n) = some n := by
  refine (if_pos (int64_range n)).trans (congrArg some ?_)
  exact Int64.ofInt_toInt n

/-! ## A struct's own members -/

section Own

variable {σ : Type} {fields : Fields σ}

theorem fieldOf_eq {name : String} {decode : σ → Json → Option σ}
    (hnames : PlainNames (fields.map Prod.fst)) (h : (name, decode) ∈ fields) :
    fieldOf fields name = some decode := by
  have hcomm : ∀ field, matchesName name field = matchesName field name := fun field =>
    Bool.beq_comm
  simp only [fieldOf, hcomm, find?_matchesName hnames h, Option.map_some]

/-- Members under the names of the fields are decoded into these. -/
theorem foldlM_decodeMember (hnames : PlainNames (fields.map Prod.fst)) {own : Fields σ}
    (hown : own ⊆ fields) (values : List Json) (s : σ) :
    (List.zipWith (fun field value => (field.1, value)) own values).foldlM (decodeMember fields) s
      = (own.zip values).foldlM (fun s p => p.1.2 s p.2) s := by
  induction own generalizing values s with
  | nil => rfl
  | cons field own ih =>
    cases values with
    | nil => rfl
    | cons value values =>
      have hfield : fieldOf fields field.1 = some field.2 :=
        fieldOf_eq hnames (hown (List.mem_cons_self ..))
      have hmember : decodeMember fields s (field.1, value) = field.2 s value := by
        rw [decodeMember, hfield]
      rw [List.zipWith_cons_cons, List.zip_cons_cons, List.foldlM_cons, List.foldlM_cons, hmember]
      exact bind_congr fun s => ih (fun f hf => hown (List.mem_cons_of_mem _ hf)) values s

/-- What a struct is encoded to is decoded field by field. -/
theorem decodeStruct_encodeStruct (hnames : PlainNames (fields.map Prod.fst)) (values : List Json)
    (s : σ) :
    decodeStruct fields s (encodeStruct fields values)
      = (fields.zip values).foldlM (fun s p => p.1.2 s p.2) s :=
  foldlM_decodeMember hnames (List.Subset.refl fields) values s

end Own

end Json

end OfflinePay
