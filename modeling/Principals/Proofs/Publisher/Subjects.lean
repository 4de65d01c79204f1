import Principals.Proofs.Mapping.Announcing

/-!
# The subjects of events

A message is published under a subject, a sequence of tokens with single points between them; no token
is empty or holds a blank. The subject of an event is the prefix of the settings, a point and the
event's name, so it is well-formed if both of these are. The names that the built-in variants give
are. A prefix is looked at without the blanks around it, and only to see whether something is left
and does not end in a point; what is accepted in this way may still hold blanks, begin with a point
or hold two points in a row.

* `Subject.wellFormed_append`: a subject put together of two;
* `Subject.wellFormed_iff`: well-formed subjects by their characters;
* `Mapper.name_of_describe`: the name of an event;
* `Event.wellFormed_subject_iff`: which subjects of events are well-formed.
-/

namespace Principals

/-! ## Well-formed subjects -/

namespace Subject

variable {cs t : List Char} {s : String}

/-- A token of a subject: at least one character, and neither points nor blanks. -/
def IsToken (t : List Char) : Prop := t ≠ [] ∧ ∀ c ∈ t, c ≠ '.' ∧ Text.isSeparating c = false

/-- A well-formed subject: one token or more, with single points between them. -/
def WellFormed (s : String) : Prop :=
  ∃ tokens, tokens ≠ [] ∧ (∀ t ∈ tokens, IsToken t) ∧ s.toList = ['.'].intercalate tokens

/-- The only tokens a subject can be made of are the parts between its points. -/
theorem wellFormed_iff_splitOn : WellFormed s ↔ ∀ t ∈ s.toList.splitOn '.', IsToken t := by
  constructor
  · rintro ⟨tokens, nonempty, are, isText⟩
    have pointless : ∀ t ∈ tokens, '.' ∉ t := fun t among holds => ((are t among).2 '.' holds).1 rfl
    rw [isText, List.splitOn_intercalate '.' pointless nonempty]
    exact are
  · exact fun are => ⟨_, List.splitOn_ne_nil '.' _, are, (List.intercalate_splitOn '.').symm⟩

-- Decided along the list, since all characters could be tried as well.
instance (t : List Char) : Decidable (IsToken t) :=
  @instDecidableAnd _ _ inferInstance (List.decidableBAll _ t)

instance (s : String) : Decidable (WellFormed s) := decidable_of_iff' _ wellFormed_iff_splitOn

/-- Two texts with a point between them are well-formed if both are. -/
theorem wellFormed_append (a b : String) :
    WellFormed (a ++ "." ++ b) ↔ WellFormed a ∧ WellFormed b := by
  have chars : (a ++ "." ++ b).toList = a.toList ++ '.' :: b.toList := by simp
  simp only [wellFormed_iff_splitOn]
  rw [chars, List.splitOn_append_cons_self]
  exact List.forall_mem_append

/-! ### By characters -/

theorem splitOn_point (cs : List Char) : ('.' :: cs).splitOn '.' = [] :: cs.splitOn '.' := by
  rw [List.splitOn_cons_eq_if_modifyHead, if_pos (beq_self_eq_true '.')]

/-- A character that is no point goes to the first part. -/
theorem splitOn_solid {c : Char} (solid : c ≠ '.') (cs : List Char) :
    ∃ t ts, cs.splitOn '.' = t :: ts ∧ (c :: cs).splitOn '.' = (c :: t) :: ts := by
  rw [List.splitOn_cons_eq_if_modifyHead, if_neg (by simpa using solid)]
  cases parts : cs.splitOn '.' with
  | nil => exact absurd parts (List.splitOn_ne_nil '.' cs)
  | cons t ts => exact ⟨t, ts, rfl, rfl⟩

/-- The first part of a text is empty where the text is or begins with a point. -/
theorem head?_splitOn : (cs.splitOn '.').head? = some [] ↔ cs = [] ∨ cs.head? = some '.' := by
  cases cs with
  | nil => simp
  | cons c rest =>
    by_cases point : c = '.'
    · simp [point, splitOn_point]
    · obtain ⟨t, ts, -, parts⟩ := splitOn_solid point rest
      simp [point, parts]

theorem nil_mem_splitOn : [] ∈ cs.splitOn '.' ↔
    (cs = [] ∨ cs.head? = some '.') ∨ [] ∈ (cs.splitOn '.').tail := by
  rw [← head?_splitOn]
  cases cs.splitOn '.' <;> simp [eq_comm]

/-- A later part of a text is empty where the text ends in a point or has two in a row. -/
theorem nil_mem_tail_splitOn :
    [] ∈ (cs.splitOn '.').tail ↔ cs.getLast? = some '.' ∨ ['.', '.'] <:+: cs := by
  induction cs with
  | nil => simp
  | cons c rest ih =>
    by_cases point : c = '.'
    · subst point
      rw [splitOn_point, List.tail_cons, nil_mem_splitOn, ih, List.infix_cons_iff]
      cases rest with
      | nil => simp
      | cons d ds => simp [@eq_comm _ '.' d, or_left_comm]
    · obtain ⟨t, ts, before, parts⟩ := splitOn_solid point rest
      rw [before, List.tail_cons] at ih
      rw [parts, List.tail_cons, ih, List.infix_cons_iff]
      cases rest <;> simp [point, Ne.symm point]

/-- The characters of the parts of a text are those of the text, without its points. -/
theorem mem_splitOn (c : Char) : (∃ t ∈ cs.splitOn '.', c ∈ t) ↔ c ∈ cs ∧ c ≠ '.' := by
  induction cs with
  | nil => simp
  | cons d rest ih =>
    by_cases point : d = '.'
    · subst point
      rw [splitOn_point]
      simp only [List.mem_cons, exists_eq_or_imp, List.not_mem_nil, false_or, ih]
      grind
    · obtain ⟨t, ts, before, parts⟩ := splitOn_solid point rest
      rw [before] at ih
      rw [parts]
      simp only [List.mem_cons, exists_eq_or_imp] at ih ⊢
      rw [or_assoc, ih]
      grind

/-- A text is a well-formed subject if it is not empty, holds no blank, neither begins nor ends in a
point and has no two points in a row. -/
theorem wellFormed_iff : WellFormed s ↔ s.toList ≠ [] ∧
    (∀ c ∈ s.toList, Text.isSeparating c = false) ∧ s.toList.head? ≠ some '.' ∧
      s.toList.getLast? ≠ some '.' ∧ ¬ ['.', '.'] <:+: s.toList := by
  have solid : (∀ t ∈ s.toList.splitOn '.', ∀ c ∈ t, c ≠ '.' ∧ Text.isSeparating c = false) ↔
      ∀ c ∈ s.toList, Text.isSeparating c = false := by
    constructor
    · intro are c among
      by_cases point : c = '.'
      · rw [point]
        rfl
      · obtain ⟨t, isPart, inPart⟩ := (mem_splitOn c).mpr ⟨among, point⟩
        exact (are t isPart c inPart).2
    · intro unblank t isPart c inPart
      obtain ⟨among, point⟩ := (mem_splitOn c).mp ⟨t, isPart, inPart⟩
      exact ⟨point, unblank c among⟩
  have nonempty : (∀ t ∈ s.toList.splitOn '.', t ≠ []) ↔ [] ∉ s.toList.splitOn '.' :=
    List.forall_mem_ne'
  rw [nil_mem_splitOn, nil_mem_tail_splitOn] at nonempty
  rw [wellFormed_iff_splitOn]
  simp only [IsToken, forall_and] at solid ⊢
  rw [solid, nonempty]
  tauto

end Subject

/-! ## The subject of an event -/

/-- An accepted prefix without blanks is not empty and does not end in a point. -/
theorem Settings.solid_of_check {settings : Settings} (accepted : settings.check = .ok settings)
    (unblank : ∀ c ∈ settings.eventSubjectPrefix.toList, Text.isSeparating c = false) :
    settings.eventSubjectPrefix.toList ≠ [] ∧
      settings.eventSubjectPrefix.toList.getLast? ≠ some '.' := by
  have accepts : acceptsPrefix settings.eventSubjectPrefix = true := by
    by_contra rejects
    rw [check, if_neg rejects] at accepted
    cases accepted
  rw [acceptsPrefix, Text.trimWhile_of_forall unblank] at accepts
  generalize settings.eventSubjectPrefix.toList = cs at accepts
  cases last : cs.getLast? with
  | none =>
    rw [last] at accepts
    cases accepts
  | some c =>
    rw [last] at accepts
    constructor
    · rintro rfl
      cases last
    · simpa using accepts

namespace Mapper

variable {m : Mapper} {d : Principal} {now : Time.DateTime} {action : LifecycleAction} {e : Event}

/-- An event has the name of its variant and its action. -/
theorem name_of_describe (builtin : m.variant ∈ Variant.builtins)
    (described : m.describe now action d = .ok e) :
    e.name = m.variant.eventName ++ "." ++ action.word := by
  obtain ⟨token, -, described⟩ := bind_eq_ok.mp described
  obtain ⟨payload, -, described⟩ := bind_eq_ok.mp described
  rw [Event.create, Checked.orInvalid_eq_ok, Event.read, map_eq_ok] at described
  obtain ⟨fields, read, rfl⟩ := described
  obtain ⟨v, found, isText⟩ := Input.exists_of_required (Checked.both_eq_ok.mp read).1
  cases found
  have trimmed := (Registry.trimmed_of_builtin _ builtin).2.1 action (by cases action <;> decide)
  rw [Reader.text_text, trimmed] at isText
  exact (Except.ok.inj isText).symm

end Mapper

namespace Event

theorem wellFormed_name : ∀ v ∈ Variant.builtins, ∀ action ∈ LifecycleAction.all,
    Subject.WellFormed (v.eventName ++ "." ++ action.word) := by
  decide

variable {settings : Settings} {m : Mapper} {d : Principal} {now : Time.DateTime}
  {action : LifecycleAction} {e : Event}

/-- The subject of an event that a built-in variant describes, under settings whose prefix was
accepted, is the prefix, a point and the name of the event. It is well-formed exactly if the prefix
holds no blank, does not begin with a point and has no two points in a row. -/
theorem wellFormed_subject_iff (accepted : settings.check = .ok settings)
    (builtin : m.variant ∈ Variant.builtins) (described : m.describe now action d = .ok e) :
    e.subject settings = settings.eventSubjectPrefix ++ "." ++
        (m.variant.eventName ++ "." ++ action.word) ∧
      (Subject.WellFormed (e.subject settings) ↔
        (∀ c ∈ settings.eventSubjectPrefix.toList, Text.isSeparating c = false) ∧
          settings.eventSubjectPrefix.toList.head? ≠ some '.' ∧
            ¬ ['.', '.'] <:+: settings.eventSubjectPrefix.toList) := by
  have name := Mapper.name_of_describe builtin described
  have named := wellFormed_name m.variant builtin action (by cases action <;> decide)
  refine ⟨by rw [subject, name], ?_⟩
  rw [subject, name, Subject.wellFormed_append, Subject.wellFormed_iff]
  constructor
  · rintro ⟨⟨-, unblank, front, -, single⟩, -⟩
    exact ⟨unblank, front, single⟩
  · rintro ⟨unblank, front, single⟩
    obtain ⟨nonempty, back⟩ := Settings.solid_of_check accepted unblank
    exact ⟨⟨nonempty, unblank, front, back, single⟩, named⟩

/-- A user announced under a prefix of two tokens. -/
theorem wellFormed_subject_of_two_tokens :
    ∃ (settings : Settings) (reg : Registry) (m : Mapper) (d : Principal) (e : Event),
      Settings.load { arguments := .ofList [("event_subject_prefix", .text "iam.dev")] } =
        .ok settings ∧ settings.check = .ok settings ∧
      Registry.withBuiltins Standard.bindings none = .ok reg ∧ reg.forKind .user = .ok m ∧
      m.variant ∈ Variant.builtins ∧
      Principal.create ⟨.epoch, none⟩ .user [("login_name", .text "zoe")] = .ok d ∧
      m.describe ⟨.epoch, none⟩ .created d = .ok e ∧
      e.subject settings = "iam.dev" ++ "." ++ (m.variant.eventName ++ "." ++ "created") ∧
      Subject.WellFormed (e.subject settings) := by
  obtain ⟨settings, loaded, given⟩ : ∃ settings,
      Settings.load { arguments := .ofList [("event_subject_prefix", .text "iam.dev")] } =
        .ok settings ∧ settings.eventSubjectPrefix = "iam.dev" :=
    ⟨⟨"development", "INFO", "nats://localhost:4222", "iam.dev", false, true⟩,
      by decide +kernel, rfl⟩
  obtain ⟨reg, m, d, e, registered, serves, builtin, built, described⟩ :
      ∃ reg m d e, Registry.withBuiltins Standard.bindings none = .ok reg ∧
        reg.forKind .user = .ok m ∧ m.variant ∈ Variant.builtins ∧
        Principal.create ⟨.epoch, none⟩ .user [("login_name", .text "zoe")] = .ok d ∧
        m.describe ⟨.epoch, none⟩ .created d = .ok e :=
    ⟨_, ⟨.user, _, _, _⟩, _, _, rfl, rfl, by decide, rfl, rfl⟩
  have accepted : settings.check = .ok settings := by
    rw [Settings.check, given]
    rfl
  obtain ⟨-, unblank, front, -, single⟩ :=
    Subject.wellFormed_iff.mp (by decide : Subject.WellFormed "iam.dev")
  obtain ⟨subject, wellFormed⟩ := wellFormed_subject_iff accepted builtin described
  rw [given] at subject wellFormed
  exact ⟨settings, reg, m, d, e, loaded, accepted, registered, serves, builtin, built, described,
    subject, wellFormed.mpr ⟨unblank, front, single⟩⟩

/-- A prefix with a blank in front of it is accepted, and the subject of a user's event is not
well-formed. -/
theorem not_wellFormed_subject_of_blank :
    ∃ (settings : Settings) (reg : Registry) (m : Mapper) (d : Principal) (e : Event),
      Settings.load { arguments := .ofList [("event_subject_prefix", .text " iam")] } =
        .ok settings ∧ settings.check = .ok settings ∧
      Registry.withBuiltins Standard.bindings none = .ok reg ∧ reg.forKind .user = .ok m ∧
      m.variant ∈ Variant.builtins ∧
      Principal.create ⟨.epoch, none⟩ .user [("login_name", .text "zoe")] = .ok d ∧
      m.describe ⟨.epoch, none⟩ .created d = .ok e ∧
      e.subject settings = " iam.user.created" ∧ ¬ Subject.WellFormed (e.subject settings) :=
  ⟨⟨"development", "INFO", "nats://localhost:4222", " iam", false, true⟩, _, ⟨.user, _, _, _⟩, _, _,
    by decide +kernel, rfl, rfl, rfl, by decide, rfl, rfl, by decide, by decide⟩

end Event

end Principals
