import Principals.Principal.Create
import Principals.Proofs.OrderedMap
import Principals.Proofs.Outcome
import Principals.Proofs.Text.Trimming

/-!
# What the constructors give

A constructor trims and bounds every name that it reads. What it holds afterwards passes the same
checks again and comes out unchanged, so a name that was constructed once can be handed to a
constructor any number of times.

* `Principal.Constructed.of_create`: the fields of a principal that a constructor gave;
* `Principal.attributes_of_create`: the names of its attributes;
* `Profile.create_agent` and its neighbours: constructing again from a name.
-/

namespace Principals

/-! ## Texts -/

namespace Reader

variable {v : Value} {s : String} {least : Nat} {most : Option Nat}

theorem text_text (s : String) : text (.text s) = .ok (Text.trim s) := rfl

theorem trim_of_text (read : text v = .ok s) : Text.trim s = s := by
  unfold text at read
  cases raw : rawText v with
  | error es =>
    rw [raw] at read
    cases read
  | ok t =>
    rw [raw] at read
    cases read
    exact Text.trim_trim t

theorem textWithin_eq_ok_iff : textWithin least most v = .ok s ↔
    text v = .ok s ∧ least ≤ s.length ∧ ∀ limit ∈ most, s.length ≤ limit := by
  unfold textWithin
  cases text v with
  | error es =>
    constructor
    · intro read
      cases read
    · intro h
      rcases h with ⟨read, -⟩
      cases read
  | ok t =>
    change (if t.length < least then Checked.issue .stringTooShort
      else if most.any (· < t.length) then Checked.issue .stringTooLong else .ok t) = .ok s ↔ _
    by_cases short : t.length < least
    · simp only [short, if_true, Checked.issue, reduceCtorEq, Except.ok.injEq, false_iff]
      intro h
      rcases h with ⟨rfl, enough, -⟩
      omega
    · by_cases long : most.any (· < t.length)
      · simp only [short, long, if_true, if_false, Checked.issue, reduceCtorEq, Except.ok.injEq,
          false_iff]
        intro h
        rcases h with ⟨rfl, -, bounded⟩
        obtain ⟨limit, given, exceeded⟩ := (Option.any_eq_true ..).mp long
        have within := bounded limit given
        simp only [decide_eq_true_eq] at exceeded
        omega
      · simp only [short, long, if_false, Except.ok.injEq, Bool.false_eq_true]
        constructor
        · rintro rfl
          refine ⟨rfl, by omega, fun limit given => ?_⟩
          subst given
          simpa using long
        · intro h
          rcases h with ⟨rfl, -⟩
          rfl

end Reader

/-! ## Names -/

namespace Profile

variable {v : Value} {s : String}

/-- A login or a name that reading leaves as it is. -/
def ValidName (s : String) : Prop := readName (.text s) = .ok s

/-- What was read as a name is read as itself. -/
theorem ValidName.of_read (read : readName v = .ok s) : ValidName s := by
  obtain ⟨text, bounds⟩ := Reader.textWithin_eq_ok_iff.mp read
  refine Reader.textWithin_eq_ok_iff.mpr ⟨?_, bounds⟩
  rw [Reader.text_text, Reader.trim_of_text text]

theorem ValidName.trim (valid : ValidName s) : Text.trim s = s :=
  Reader.trim_of_text (Reader.textWithin_eq_ok_iff.mp valid).1

theorem ValidName.nonempty (valid : ValidName s) : s ≠ "" := by
  obtain ⟨-, long, -⟩ := Reader.textWithin_eq_ok_iff.mp valid
  rintro rfl
  simp at long

/-! ## Profiles -/

/-- The profiles that the constructor of a built-in kind gives. -/
inductive Constructed : Kind → Profile → Prop
  | agent {login : String} (valid : ValidName login) : Constructed .agent (.agent (.text login))
  | user {login : String} (valid : ValidName login) (first last email : Option String) :
    Constructed .user
      (.user (.text login) (.ofText? first) (.ofText? last) (.ofText? email))
  | group {name path : String} (valid : ValidName name) (trimmed : Text.trim path = path)
      (nonempty : path ≠ "") :
    Constructed .group (.group (.text name) (.text path))
  | role {name : String} (valid : ValidName name) : Constructed .role (.role (.text name))

end Profile

namespace Input

variable {α : Type} {input : Input} {name : String} {read : Value → Checked α} {x : α}

theorem required_of_find? {v : Value} (found : input.find? name = some v) (ok : read v = .ok x) :
    input.required name read = .ok x := by
  simp [required, found, ok, Checked.within]

theorem exists_of_required (ok : input.required name read = .ok x) :
    ∃ v, input.find? name = some v ∧ read v = .ok x := by
  unfold required at ok
  cases found : input.find? name with
  | none =>
    rw [found] at ok
    cases ok
  | some v =>
    simp only [found] at ok
    cases given : read v with
    | error es =>
      rw [given] at ok
      cases ok
    | ok y =>
      rw [given] at ok
      cases ok
      exact ⟨v, rfl, given⟩

theorem withDefault_of_find? {v : Value} {default : α} (found : input.find? name = some v)
    (ok : read v = .ok x) : input.withDefault name default read = .ok x := by
  simp [withDefault, found, ok, Checked.within]

theorem withDefault_of_absent (default : α) (read : Value → Checked α)
    (absent : input.find? name = none) : input.withDefault name default read = .ok default := by
  simp [withDefault, absent]

/-- A field with a default was read, or it was not there and is the default. -/
theorem read_or_default {default : α} (ok : input.withDefault name default read = .ok x) :
    x = default ∨ ∃ v, read v = .ok x := by
  cases found : input.find? name with
  | none =>
    rw [withDefault_of_absent _ _ found] at ok
    cases ok
    exact .inl rfl
  | some v =>
    cases given : read v with
    | error es =>
      simp [withDefault, found, given, Checked.within] at ok
    | ok y =>
      rw [withDefault_of_find? found given] at ok
      cases ok
      exact .inr ⟨v, given⟩

end Input

namespace Profile

variable {input : Input} {p : Profile}

theorem ValidName.of_required {name s : String} (ok : input.required name readName = .ok s) :
    ValidName s := by
  obtain ⟨v, -, read⟩ := Input.exists_of_required ok
  exact .of_read read

theorem trim_of_readOptional {f : Field} {s : String} (ok : readOptional input f = .ok (some s)) :
    Text.trim s = s := by
  rcases Input.read_or_default ok with none | ⟨v, read⟩
  · cases none
  · by_cases absent : v = .null
    · subst absent
      cases read
    · have present : Reader.optional Reader.text v = (Reader.text v).map some := by
        cases v <;> first | rfl | exact absurd rfl absent
      rw [present] at read
      obtain ⟨t, text, eq⟩ := map_eq_ok.mp read
      cases eq
      exact Reader.trim_of_text text

/-- The path of a group is trimmed and not empty, also where the name stands in for it. -/
theorem pathOrDefault_spec {name : String} {path : Option String} (valid : ValidName name)
    (trimmed : ∀ s, path = some s → Text.trim s = s) :
    Text.trim (pathOrDefault name path) = pathOrDefault name path ∧
      pathOrDefault name path ≠ "" := by
  have slashed : Text.trim ("/" ++ name) = "/" ++ name :=
    Text.trim_append_of_trim (c := '/') (by decide) valid.trim valid.nonempty
  have nonempty : "/" ++ name ≠ "" := by
    intro empty
    have length := congrArg String.length empty
    simp [String.length_append] at length
  cases path with
  | none => exact ⟨slashed, nonempty⟩
  | some s =>
    by_cases empty : s = ""
    · rw [pathOrDefault, if_pos empty]
      exact ⟨slashed, nonempty⟩
    · rw [pathOrDefault, if_neg empty]
      exact ⟨trimmed s rfl, empty⟩

/-- A constructor gives a constructed profile of its stem. -/
theorem Constructed.of_read? {kind : Kind} (read : read? kind input = some (.ok p)) :
    Constructed kind.stem p := by
  unfold read? at read
  split at read
  · next stem =>
    obtain ⟨login, given, rfl⟩ := map_eq_ok.mp (Option.some.inj read)
    rw [stem]
    exact .agent (.of_required given)
  · next stem =>
    obtain ⟨⟨login, first, last, email⟩, given, rfl⟩ :=
      map_eq_ok.mp (Option.some.inj read)
    rw [stem]
    exact .user (.of_required (Checked.both_eq_ok.mp given).1) first last email
  · next stem =>
    obtain ⟨⟨name, path⟩, given, rfl⟩ := map_eq_ok.mp (Option.some.inj read)
    obtain ⟨named, placed⟩ := Checked.both_eq_ok.mp given
    have valid : ValidName name := .of_required named
    have path_spec := pathOrDefault_spec valid fun s (at_s : path = some s) =>
      trim_of_readOptional (at_s ▸ placed)
    rw [stem]
    exact .group valid path_spec.1 path_spec.2
  · next stem =>
    obtain ⟨name, given, rfl⟩ := map_eq_ok.mp (Option.some.inj read)
    rw [stem]
    exact .role (.of_required given)
  · cases read
  · cases read

end Profile

/-! ## Principals -/

theorem Checked.orInvalid_eq_ok {α : Type} {model : String} {a : Checked α} {x : α} :
    Checked.orInvalid model a = .ok x ↔ a = .ok x := by
  cases a <;> simp [Checked.orInvalid]

/-- What a constructor of a kind says of the principals that it gives. -/
structure Principal.Constructed (k : Kind) (d : Principal) : Prop where
  kind : d.kind = k
  enabled : ∃ b, d.enabled = .bool b
  created : ∃ t, d.createdDate = .moment t
  expires : d.expirationDate = .null ∨ ∃ t, d.expirationDate = .moment t
  profile : Profile.Constructed k.stem d.profile

/-- What is constructed was read: the shared fields and the profile. -/
theorem Principal.read_of_create {now : Time.DateTime} {kind : Kind}
    {fields : List (String × Value)} {d : Principal}
    (made : Principal.create now kind fields = .ok d) :
    ∃ shared p, SharedFields.read now (.ofList fields) = .ok shared ∧
      Profile.read? kind (.ofList fields) = some (.ok p) ∧ d = shared.toPrincipal kind p := by
  unfold Principal.create at made
  dsimp only at made
  cases read : Profile.read? kind (.ofList fields) with
  | none =>
    rw [read] at made
    cases made
  | some profile =>
    rw [read] at made
    obtain ⟨⟨shared, p⟩, both, rfl⟩ := map_eq_ok.mp (Checked.orInvalid_eq_ok.mp made)
    obtain ⟨given, rfl⟩ := Checked.both_eq_ok.mp both
    exact ⟨shared, p, given, rfl, rfl⟩

theorem Principal.Constructed.of_create {now : Time.DateTime} {kind : Kind}
    {fields : List (String × Value)} {d : Principal}
    (made : Principal.create now kind fields = .ok d) : d.Constructed kind := by
  obtain ⟨shared, p, -, read, rfl⟩ := read_of_create made
  refine ⟨rfl, ⟨_, rfl⟩, ⟨_, rfl⟩, ?_, .of_read? read⟩
  cases expires : shared.expirationDate with
  | none => exact .inl (by simp [SharedFields.toPrincipal, expires])
  | some t => exact .inr ⟨t, by simp [SharedFields.toPrincipal, expires]⟩

theorem Checked.within_eq_ok {α : Type} {step : Locator} {a : Checked α} {x : α} :
    Checked.within step a = .ok x ↔ a = .ok x := by
  cases a <;> simp [Checked.within]

/-- The keys of a mapping that was read are trimmed and different. -/
theorem Reader.keys_of_mapping {α : Type} {read : Value → Checked α} {v : Value}
    {m : OrderedMap String α} (ok : mapping read v = .ok m) :
    m.keys.Nodup ∧ ∀ name ∈ m.keys, Text.trim name = name := by
  have later : ∀ (entries : List (Value × Value)) (acc : OrderedMap String α),
      acc.keys.Nodup → (∀ name ∈ acc.keys, Text.trim name = name) →
      mapping.go read entries acc = .ok m →
      m.keys.Nodup ∧ ∀ name ∈ m.keys, Text.trim name = name := by
    intro entries
    induction entries with
    | nil =>
      intro acc nodup trimmed ok
      cases ok
      exact ⟨nodup, trimmed⟩
    | cons e rest ih =>
      intro acc nodup trimmed ok
      simp only [mapping.go] at ok
      split at ok
      · next name value entry =>
        have key := (Checked.both_eq_ok.mp (Checked.within_eq_ok.mp entry)).1
        refine ih _ (acc.nodup_keys_insert name value nodup) (fun other among => ?_) ok
        rw [OrderedMap.keys_insert] at among
        split at among
        · exact trimmed other among
        · rcases List.mem_append.mp among with before | own
          · exact trimmed other before
          · rw [List.mem_singleton.mp own]
            exact trim_of_text (Checked.within_eq_ok.mp key)
      · obtain ⟨_, both, -⟩ := map_eq_ok.mp ok
        cases (Checked.both_eq_ok.mp both).1
  cases v with
  | mapping entries => exact later entries ∅ List.nodup_nil nofun ok
  | _ => cases ok

/-- The attributes that were read stand in the input under their name, or are none. -/
theorem SharedFields.attributes_of_read {now : Time.DateTime} {input : Input} {shared : SharedFields}
    (read : SharedFields.read now input = .ok shared) :
    input.withDefault "attributes" ∅ (Reader.mapping Reader.list) = .ok shared.attributes := by
  obtain ⟨⟨enabled, created, expires, partition, attributes⟩, fields, rfl⟩ := map_eq_ok.mp read
  obtain ⟨-, fields⟩ := Checked.both_eq_ok.mp fields
  obtain ⟨-, fields⟩ := Checked.both_eq_ok.mp fields
  obtain ⟨-, fields⟩ := Checked.both_eq_ok.mp fields
  exact (Checked.both_eq_ok.mp fields).2

/-- The attributes of a principal that a constructor gave have trimmed, different names. -/
theorem Principal.attributes_of_create {now : Time.DateTime} {kind : Kind}
    {fields : List (String × Value)} {d : Principal}
    (made : Principal.create now kind fields = .ok d) :
    ∃ m : OrderedMap String (List Value), d.attributes = SharedFields.attributesValue m ∧
      m.keys.Nodup ∧ ∀ name ∈ m.keys, Text.trim name = name := by
  obtain ⟨shared, p, read, -, rfl⟩ := read_of_create made
  refine ⟨shared.attributes, rfl, ?_⟩
  rcases Input.read_or_default (SharedFields.attributes_of_read read) with none | ⟨v, ok⟩
  · rw [none]
    exact ⟨List.nodup_nil, nofun⟩
  · exact Reader.keys_of_mapping ok

/-! ## Constructing again -/

namespace Profile

variable {kind : Kind} {login name path : String}

theorem find?_ofList_singleton (name : String) (v : Value) :
    (OrderedMap.ofList [(name, v)]).find? name = some v := OrderedMap.find?_insert_self ..

/-- An agent is constructed under any login that can be read. -/
theorem create_agent {v : Value} (stem : kind.stem = .agent) (read : readName v = .ok login) :
    create kind [(Field.loginName.label, v)] = .ok (.agent (.text login)) := by
  have agent : readAgent (.ofList [(Field.loginName.label, v)]) = .ok (.agent (.text login)) := by
    rw [readAgent, Input.required_of_find? (find?_ofList_singleton ..) read]
    rfl
  simp only [create, read?, stem, agent, Checked.orInvalid]

theorem create_user {v : Value} (stem : kind.stem = .user) (read : readName v = .ok login) :
    create kind [(Field.loginName.label, v)] = .ok (.user (.text login) .null .null .null) := by
  have absent : ∀ f ∈ [Field.firstName, .lastName, .email],
      readOptional (.ofList [(Field.loginName.label, v)]) f = .ok none := by
    intro f among
    refine Input.withDefault_of_absent _ _ ?_
    have other : f.label ≠ Field.loginName.label := by
      simp only [List.mem_cons, List.not_mem_nil, or_false] at among
      rcases among with rfl | rfl | rfl <;> decide
    exact OrderedMap.find?_insert_of_ne ∅ other _
  have user : readUser (.ofList [(Field.loginName.label, v)]) =
      .ok (.user (.text login) .null .null .null) := by
    rw [readUser, Input.required_of_find? (find?_ofList_singleton ..) read,
      absent .firstName (by simp), absent .lastName (by simp), absent .email (by simp)]
    rfl
  simp only [create, read?, stem, user, Checked.orInvalid]

theorem create_role {v : Value} (read : readName v = .ok name) :
    create .role [(Field.name.label, v)] = .ok (.role (.text name)) := by
  have role : readRole (.ofList [(Field.name.label, v)]) = .ok (.role (.text name)) := by
    rw [readRole, Input.required_of_find? (find?_ofList_singleton ..) read]
    rfl
  simp only [create, read?, Kind.stem, role, Checked.orInvalid]

theorem find?_group_input (v path : Value) :
    (OrderedMap.ofList [(Field.name.label, v), (Field.path.label, path)]).find? Field.name.label =
        some v ∧
      (OrderedMap.ofList [(Field.name.label, v), (Field.path.label, path)]).find?
        Field.path.label = some path := by
  have nodup : ([(Field.name.label, v), (Field.path.label, path)].map Prod.fst).Nodup := by
    change [Field.name.label, Field.path.label].Nodup
    decide
  exact ⟨OrderedMap.find?_ofList_of_mem nodup (by simp),
    OrderedMap.find?_ofList_of_mem nodup (by simp)⟩

/-- A group is constructed at the trimmed path, unless that is empty, under any name that can be
read. -/
theorem create_group {v : Value} (read : readName v = .ok name) (nonempty : Text.trim path ≠ "") :
    create .group [(Field.name.label, v), (Field.path.label, .text path)] =
      .ok (.group (.text name) (.text (Text.trim path))) := by
  obtain ⟨named, placed⟩ := find?_group_input v (.text path)
  have readPath : readOptional (.ofList [(Field.name.label, v), (Field.path.label, .text path)])
      .path = .ok (some (Text.trim path)) := by
    refine Input.withDefault_of_find? placed ?_
    change (Reader.text (.text path)).map some = _
    rw [Reader.text_text]
    rfl
  have group : readGroup (.ofList [(Field.name.label, v), (Field.path.label, .text path)]) =
      .ok (.group (.text name) (.text (Text.trim path))) := by
    rw [readGroup, Input.required_of_find? named read, readPath]
    simp [Checked.both, Except.map, pathOrDefault, nonempty]
  simp only [create, read?, Kind.stem, group, Checked.orInvalid]

/-- What is constructed was read. -/
theorem read?_of_create {fields : List (String × Value)} {p : Profile}
    (made : create kind fields = .ok p) : read? kind (.ofList fields) = some (.ok p) := by
  unfold create at made
  split at made
  · cases made
  · next profile read => exact read.trans (congrArg some (Checked.orInvalid_eq_ok.mp made))

theorem readName_of_required {v : Value} {label s : String}
    (ok : Input.required (.ofList [(label, v)]) label readName = .ok s) : readName v = .ok s := by
  obtain ⟨x, found, read⟩ := Input.exists_of_required ok
  rw [find?_ofList_singleton] at found
  cases found
  exact read

/-- Where an agent or a user can be constructed, its login can be read. -/
theorem readName_of_create_login {v : Value} {p : Profile}
    (stem : kind.stem = .agent ∨ kind.stem = .user)
    (made : create kind [(Field.loginName.label, v)] = .ok p) : ∃ s, readName v = .ok s := by
  have read := read?_of_create made
  rcases stem with stem | stem
  · simp only [read?, stem, Option.some.injEq] at read
    obtain ⟨login, given, -⟩ := map_eq_ok.mp read
    exact ⟨login, readName_of_required given⟩
  · simp only [read?, stem, Option.some.injEq] at read
    obtain ⟨⟨login, _⟩, given, -⟩ := map_eq_ok.mp read
    exact ⟨login, readName_of_required (Checked.both_eq_ok.mp given).1⟩

theorem readName_of_create_role {v : Value} {p : Profile}
    (made : create .role [(Field.name.label, v)] = .ok p) : ∃ s, readName v = .ok s := by
  obtain ⟨name, given, -⟩ := map_eq_ok.mp (Option.some.inj (read?_of_create made))
  exact ⟨name, readName_of_required given⟩

/-- Where a group can be constructed, its name can be read. -/
theorem readName_of_create_group {v path : Value} {p : Profile}
    (made : create .group [(Field.name.label, v), (Field.path.label, path)] = .ok p) :
    ∃ s, readName v = .ok s := by
  obtain ⟨⟨name, _⟩, given, -⟩ := map_eq_ok.mp (Option.some.inj (read?_of_create made))
  obtain ⟨x, found, readX⟩ := Input.exists_of_required (Checked.both_eq_ok.mp given).1
  rw [(find?_group_input v path).1] at found
  cases found
  exact ⟨name, readX⟩

end Profile

end Principals
