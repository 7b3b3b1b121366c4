/-
**Texts that cannot be read.**

A section may be given at once, as the text of a data value, and so may a list below it. Such a text need not be
one. Loading tells then which section or list it was, and nothing of what is wrong with the others; it tells so
in no other case.

* `Environment.IsGarbled`, `Environment.Undecodable` — a list below a section and a section that cannot be read.
* `singleFields_eq_none_iff`, `sectionValue_eq_error_iff`, `ownFields_eq_error_iff` — when reading fails.
* `Unreadable` — **the text at which loading fails**.
* `load_eq_unreadable_iff` — loading fails at a text exactly if that is so.
-/

import Roster.Proofs.Settings.Bounds

namespace Roster.Settings

variable {α : Type}

/-- Taking in a list fails exactly if this fails at one of its items, if that does not depend on what was taken
in before. -/
theorem foldlM_eq_none_iff {β : Type} {takeIn : β → α → Option β} {fails : α → Prop}
    (step : ∀ taken item, takeIn taken item = none ↔ fails item) (items : List α) (taken : β) :
    items.foldlM takeIn taken = none ↔ ∃ item ∈ items, fails item := by
  induction items generalizing taken with
  | nil => exact iff_of_false nofun (by rintro ⟨_, ⟨⟩, _⟩)
  | cons item rest ih =>
    rw [List.foldlM_cons]
    cases first : takeIn taken item with
    | none => exact iff_of_true rfl ⟨item, List.mem_cons_self, (step taken item).mp first⟩
    | some more =>
      have succeeds : ¬ fails item := fun failed => by
        rw [(step taken item).mpr failed] at first
        cases first
      refine (ih more).trans ?_
      simp [succeeds]

/-- Taking in a list stops exactly at its first item that cannot be taken in. -/
theorem foldlM_eq_error_iff {β : Type} {takeIn : β → α → Except α β} {readable : α → Prop}
    (succeeds : ∀ taken item, readable item → ∃ more, takeIn taken item = .ok more)
    (stops : ∀ taken item, ¬ readable item → takeIn taken item = .error item) (items : List α) (taken : β)
    {culprit : α} : items.foldlM takeIn taken = .error culprit
      ↔ ∃ early later, items = early ++ culprit :: later ∧ (∀ item ∈ early, readable item)
        ∧ ¬ readable culprit := by
  induction items generalizing taken with
  | nil => exact iff_of_false nofun (by rintro ⟨early, later, split, _⟩; simp at split)
  | cons first rest ih =>
    rw [List.foldlM_cons]
    by_cases reads : readable first
    · obtain ⟨more, took⟩ := succeeds taken first reads
      rw [took]
      refine (ih more).trans ⟨?_, ?_⟩
      · rintro ⟨early, later, split, before, fails⟩
        exact ⟨first :: early, later, congrArg _ split, List.forall_mem_cons.mpr ⟨reads, before⟩, fails⟩
      · rintro ⟨early, later, split, before, fails⟩
        cases early with
        | nil =>
          obtain ⟨rfl, _⟩ := List.cons.inj split
          exact absurd reads fails
        | cons other early =>
          obtain ⟨rfl, same⟩ := List.cons.inj split
          exact ⟨early, later, same, (List.forall_mem_cons.mp before).2, fails⟩
    · rw [stops taken first reads]
      constructor
      · rintro ⟨⟩
        exact ⟨[], rest, rfl, List.forall_mem_nil _, reads⟩
      · rintro ⟨early, later, split, before, _⟩
        cases early with
        | nil =>
          obtain ⟨rfl, _⟩ := List.cons.inj split
          rfl
        | cons other early =>
          obtain ⟨rfl, _⟩ := List.cons.inj split
          exact absurd (before _ List.mem_cons_self) reads

/-! ### Reading sections -/

namespace Environment

variable {environment : Environment} {part : Section}

/-- A list below a section has a text that is no data value; the empty text is taken as it is. -/
def IsGarbled (part : Section) (entry : String × String) : Prop :=
  ∃ field ∈ part.lists, way? part entry.1 = some [field] ∧ entry.2.isEmpty = false
    ∧ Value.read? entry.2 = none

/-- **A section of the whole cannot be read**: its own text is no data value, or the text of a list is none
which would replace a field of it. -/
inductive Undecodable (environment : Environment) (part : Section) : Prop where
  | whole (text : String) (found : environment.value? (lead ++ part.name) = some text)
      (garbled : Value.read? text = none)
  | single (table : ∀ text, environment.value? (lead ++ part.name) = some text →
      ∃ fields, Value.read? text = some (.table fields)) (entry : String × String)
      (inside : entry ∈ environment) (garbled : IsGarbled part entry)

theorem wayValue_eq_none_iff {way : List String} {text : String} :
    wayValue part way text = none ↔ ∃ field ∈ part.lists, way = [field] ∧ text.isEmpty = false
      ∧ Value.read? text = none := by
  unfold wayValue
  split
  · rename_i field
    by_cases reads : part.lists.contains field && !text.isEmpty
    · rw [if_pos reads]
      rw [Bool.and_eq_true, Bool.not_eq_true', List.contains_iff_mem] at reads
      exact ⟨fun garbled => ⟨field, reads.1, rfl, reads.2, garbled⟩,
        by rintro ⟨_, _, _, _, garbled⟩; exact garbled⟩
    · rw [if_neg reads]
      refine iff_of_false nofun ?_
      rintro ⟨_, member, ⟨⟩, filled, _⟩
      exact reads (by rw [List.contains_iff_mem.mpr member, filled]; rfl)
  · rename_i other
    refine iff_of_false nofun ?_
    rintro ⟨field, _, rfl, _⟩
    exact other field rfl

/-- **Reading the lists below a section fails exactly if one of them cannot be read.** -/
theorem singleFields_eq_none_iff :
    environment.singleFields part = none ↔ ∃ entry ∈ environment, IsGarbled part entry := by
  unfold singleFields
  refine foldlM_eq_none_iff (fun fields entry => ?_) environment []
  unfold IsGarbled
  cases leads : way? part entry.1 with
  | none => exact iff_of_false nofun (by rintro ⟨_, _, ⟨⟩, _⟩)
  | some way =>
    dsimp only
    rw [Option.map_eq_none_iff, wayValue_eq_none_iff]
    simp only [Option.some.injEq]

/-- Where a section is not given at once, or as a table, its lists decide. -/
theorem undecodable_iff_of_table (table : ∀ text, environment.value? (lead ++ part.name) = some text →
    ∃ fields, Value.read? text = some (.table fields)) :
    environment.Undecodable part ↔ environment.singleFields part = none := by
  rw [singleFields_eq_none_iff]
  constructor
  · rintro (⟨text, found, garbled⟩ | ⟨_, entry, inside, garbled⟩)
    · obtain ⟨fields, read⟩ := table text found
      rw [read] at garbled
      cases garbled
    · exact ⟨entry, inside, garbled⟩
  · rintro ⟨entry, inside, garbled⟩
    exact .single table entry inside garbled

/-- A section that is given at once as something else than a table can be read. -/
theorem not_undecodable_of_value {text : String} {value : Value}
    (found : environment.value? (lead ++ part.name) = some text) (read : Value.read? text = some value)
    (noTable : ∀ fields, value ≠ .table fields) : ¬ environment.Undecodable part := by
  rintro (⟨_, same, garbled⟩ | ⟨table, _, _, _⟩)
  · rw [found] at same
    cases same
    rw [read] at garbled
    cases garbled
  · obtain ⟨fields, same⟩ := table text found
    rw [read] at same
    exact noTable fields (Option.some.inj same)

/-- **Reading a section fails exactly if it cannot be read**, and then its name is told. -/
theorem sectionValue_eq_error_iff {name : String} :
    environment.sectionValue part = .error name ↔ name = part.name ∧ environment.Undecodable part := by
  unfold sectionValue
  cases found : environment.value? (lead ++ part.name) with
  | none =>
    have decides : environment.Undecodable part ↔ environment.singleFields part = none :=
      undecodable_iff_of_table fun text same => by rw [found] at same; cases same
    dsimp only
    cases read : environment.singleFields part with
    | none =>
      have undecodable := decides.mpr read
      simp [undecodable, eq_comm]
    | some fields =>
      have decodable : ¬ environment.Undecodable part := by rw [decides, read]; nofun
      cases fields <;> simp [decodable]
  | some text =>
    dsimp only
    cases read : Value.read? text with
    | none =>
      have undecodable : environment.Undecodable part := .whole text found read
      simp [undecodable, eq_comm]
    | some value =>
      cases value with
      | table given =>
        have decides : environment.Undecodable part ↔ environment.singleFields part = none :=
          undecodable_iff_of_table fun other same => by rw [found] at same; cases same; exact ⟨given, read⟩
        dsimp only
        cases lists : environment.singleFields part with
        | none =>
          have undecodable := decides.mpr lists
          simp [undecodable, eq_comm]
        | some fields =>
          have decodable : ¬ environment.Undecodable part := by rw [decides, lists]; nofun
          simp [decodable]
      | _ =>
        have decodable := not_undecodable_of_value found read nofun
        simp [decodable]

/-- A field that a section looks for itself cannot be read exactly if it is a list whose text is no data
value. -/
theorem ownField_eq_none_iff {field : String} :
    environment.ownField part field = none ↔ field ∈ part.lists
      ∧ ∃ text, environment.value? (lead ++ part.name ++ separator ++ field) = some text
        ∧ Value.read? text = none := by
  unfold ownField
  cases found : environment.value? (lead ++ part.name ++ separator ++ field) with
  | none => simp
  | some text =>
    by_cases isList : field ∈ part.lists
    · cases read : Value.read? text with
      | none => simp [isList, read]
      | some value => cases value <;> simp [isList, read]
    · simp [isList]

/-- A section cannot read its own fields exactly if it comes to one that it cannot read. -/
theorem ownFields_eq_error_iff {field : String} :
    environment.ownFields part = .error field ↔ ∃ early later, part.fields = early ++ field :: later
      ∧ (∀ other ∈ early, environment.ownField part other ≠ none)
      ∧ ¬ environment.ownField part field ≠ none := by
  unfold ownFields
  refine foldlM_eq_error_iff (fun found name readable => ?_) (fun found name garbled => ?_) part.fields []
  · cases read : environment.ownField part name with
    | none => exact absurd read readable
    | some value => cases value <;> exact ⟨_, rfl⟩
  · rw [Classical.not_not.mp garbled]

/-- A section without lists can always read its own fields. -/
theorem ownFields_of_no_lists (noLists : part.lists = []) (field : String) :
    environment.ownFields part ≠ .error field := by
  rw [Ne, ownFields_eq_error_iff]
  rintro ⟨_, _, _, _, garbled⟩
  rw [Classical.not_not, ownField_eq_none_iff, noLists] at garbled
  cases garbled.1

end Environment

/-! ### Loading -/

section Load

variable {rules : SectionRules α} {environment : Environment} {fields : List (String × Value)}

/-- A section on its own fails at a text exactly if it cannot read it. -/
theorem SectionRules.load_eq_unreadable_iff {field : String} :
    rules.load environment [] = .error (.unreadable field)
      ↔ environment.ownFields rules.toSection = .error field := by
  unfold SectionRules.load
  cases environment.ownFields rules.toSection with
  | error other => simp
  | ok own =>
    dsimp only
    cases rules.check (Environment.laidOverFields own (underNames rules.fields [])) <;>
      simp [Checked.toExcept]

/-- A section of the whole fails exactly if the whole does not find it and it fails on its own. -/
theorem SectionRules.part_eq_error_iff {error : LoadError} :
    rules.part environment fields = .error error
      ↔ Value.lookup rules.name fields = none ∧ rules.load environment [] = .error error := by
  unfold SectionRules.part
  cases found : Value.lookup rules.name fields with
  | none =>
    dsimp only
    cases rules.load environment [] with
    | ok loaded => simp [Functor.map, Except.map]
    | error other => simp [Functor.map, Except.map]
  | some value =>
    cases value with
    | table given =>
      dsimp only
      cases rules.load environment given with
      | ok loaded => simp [pure, Except.pure]
      | error other => cases other <;> simp [pure, Except.pure]
    | _ => simp [pure, Except.pure]

/-- What the whole finds of a section, under its name. -/
def sectionField (environment : Environment) (part : Section) : Option (String × Value) :=
  (environment.sectionValue part).toOption.join.map ((part.name, ·))

/-- The reading of a section by the whole. -/
def readSection (environment : Environment) (part : Section) :
    Except LoadError (Option (String × Value)) :=
  match environment.sectionValue part with
  | .error field => .error (.unreadable field)
  | .ok value => .ok (value.map ((part.name, ·)))

theorem readSection_of_decodable {part : Section} (decodable : ¬ environment.Undecodable part) :
    readSection environment part = .ok (sectionField environment part) := by
  unfold readSection sectionField
  cases read : environment.sectionValue part with
  | error name => exact absurd (Environment.sectionValue_eq_error_iff.mp read).2 decodable
  | ok value => cases value <;> rfl

theorem readSection_of_undecodable {part : Section} (garbled : environment.Undecodable part) :
    readSection environment part = .error (.unreadable part.name) := by
  unfold readSection
  rw [Environment.sectionValue_eq_error_iff.mpr ⟨rfl, garbled⟩]

/-- Sections are read one by one, up to the first that cannot be read. -/
theorem filterMapM_readSection_cases (environment : Environment) (parts : List Section) :
    ((∀ part ∈ parts, ¬ environment.Undecodable part)
        ∧ parts.filterMapM (readSection environment) = .ok (parts.filterMap (sectionField environment)))
      ∨ ∃ early part later, parts = early ++ part :: later
        ∧ (∀ other ∈ early, ¬ environment.Undecodable other) ∧ environment.Undecodable part
        ∧ parts.filterMapM (readSection environment) = .error (.unreadable part.name) := by
  induction parts with
  | nil => exact .inl ⟨List.forall_mem_nil _, rfl⟩
  | cons first rest ih =>
    rw [List.filterMapM_cons]
    by_cases garbled : environment.Undecodable first
    · rw [readSection_of_undecodable garbled]
      exact .inr ⟨[], first, rest, rfl, List.forall_mem_nil _, garbled, rfl⟩
    · rw [readSection_of_decodable garbled]
      rcases ih with ⟨each, reads⟩ | ⟨early, part, later, split, before, culprit, fails⟩
      · refine .inl ⟨List.forall_mem_cons.mpr ⟨garbled, each⟩, ?_⟩
        rw [reads, List.filterMap_cons]
        cases sectionField environment first <;> rfl
      · refine .inr ⟨first :: early, part, later, ?_, List.forall_mem_cons.mpr ⟨garbled, before⟩, culprit, ?_⟩
        · rw [split, List.cons_append]
        · rw [fails]
          cases sectionField environment first <;> rfl

theorem lookup_eq_none_of_not_mem {name : String} {fields : List (String × Value)}
    (fresh : name ∉ fields.map Prod.fst) : Value.lookup name fields = none := by
  unfold Value.lookup
  rw [Option.map_eq_none_iff, List.find?_eq_none]
  intro field member same
  exact fresh (List.mem_map.mpr ⟨field, member, beq_iff_eq.mp same⟩)

theorem lookup_append (name : String) (first later : List (String × Value)) :
    Value.lookup name (first ++ later) = (Value.lookup name first).or (Value.lookup name later) := by
  unfold Value.lookup
  rw [List.find?_append, Option.map_or]

theorem mem_names_sectionFields {parts : List Section} {name : String}
    (member : name ∈ (parts.filterMap (sectionField environment)).map Prod.fst) :
    name ∈ parts.map Section.name := by
  obtain ⟨field, found, rfl⟩ := List.mem_map.mp member
  obtain ⟨part, inside, same⟩ := List.mem_filterMap.mp found
  obtain ⟨value, _, rfl⟩ := Option.map_eq_some_iff.mp same
  exact List.mem_map_of_mem inside

/-- Sections under distinct names are found under their own ones. -/
theorem lookup_sectionFields {parts : List Section} (distinct : (parts.map Section.name).Nodup)
    {part : Section} (member : part ∈ parts) :
    Value.lookup part.name (parts.filterMap (sectionField environment))
      = (environment.sectionValue part).toOption.join := by
  induction parts with
  | nil => cases member
  | cons first rest ih =>
    obtain ⟨fresh, distinctLater⟩ := List.nodup_cons.mp distinct
    rw [List.filterMap_cons, sectionField]
    rcases List.mem_cons.mp member with rfl | later
    · cases (environment.sectionValue part).toOption.join with
      | none => exact lookup_eq_none_of_not_mem fun inside => fresh (mem_names_sectionFields inside)
      | some value => simp [Value.lookup]
    · have other : first.name ≠ part.name := fun same => fresh (same ▸ List.mem_map_of_mem later)
      rw [← ih distinctLater later]
      cases (environment.sectionValue first).toOption.join with
      | none => rfl
      | some value => simp [Value.lookup, other]

/-- **The whole can be looked for exactly if each section can be read**, and then what it finds of a section is
that; else it fails at the first section that cannot be read. -/
theorem found_cases (environment : Environment) :
    (∃ fields, found environment = .ok fields ∧ (∀ part ∈ sections, ¬ environment.Undecodable part)
        ∧ ∀ part ∈ sections, Value.lookup part.name fields = none ↔ environment.sectionValue part = .ok none)
      ∨ ∃ early part later, sections = early ++ part :: later
        ∧ (∀ other ∈ early, ¬ environment.Undecodable other) ∧ environment.Undecodable part
        ∧ found environment = .error (.unreadable part.name) := by
  let simple := simpleFields.filterMap fun name =>
    (environment.value? (Environment.lead ++ name)).map fun text => (name, Value.text text)
  have reads : found environment
      = sections.filterMapM (readSection environment) >>= fun parts => .ok (simple ++ parts) := rfl
  rw [reads]
  rcases filterMapM_readSection_cases environment sections with ⟨each, ran⟩ | ⟨early, part, later, split, before, garbled, fails⟩
  · rw [ran]
    refine .inl ⟨_, rfl, each, fun part member => ?_⟩
    have fresh : part.name ∉ simple.map Prod.fst := by
      intro inside
      obtain ⟨field, found, same⟩ := List.mem_map.mp inside
      obtain ⟨name, simple, read⟩ := List.mem_filterMap.mp found
      obtain ⟨text, _, rfl⟩ := Option.map_eq_some_iff.mp read
      have apart : ∀ part ∈ sections, part.name ∉ simpleFields := by decide
      exact apart part member (same ▸ simple)
    rw [lookup_append, lookup_eq_none_of_not_mem fresh, Option.none_or,
      lookup_sectionFields (by decide) member]
    cases read : environment.sectionValue part with
    | error name => exact absurd (Environment.sectionValue_eq_error_iff.mp read).2 (each part member)
    | ok value => simp [Except.toOption]
  · rw [fails]
    exact .inr ⟨early, part, later, split, before, garbled, rfl⟩

end Load

/-- A section that the whole does not find can be loaded on its own. -/
def SectionRules.LoadsAlone (rules : SectionRules α) (environment : Environment) : Prop :=
  environment.sectionValue rules.toSection = .ok none → ∃ loaded, rules.load environment [] = .ok loaded

/-- **The text at which loading fails**: that of the first section which cannot be read, or that of the list of
jobs, if the section of the worker is given as nothing, so that it looks for its fields itself, and the sections
before it do so without problems. -/
inductive Unreadable (environment : Environment) : String → Prop where
  | whole (early later : List Section) (part : Section) (split : sections = early ++ part :: later)
      (before : ∀ other ∈ early, ¬ environment.Undecodable other) (garbled : environment.Undecodable part) :
      Unreadable environment part.name
  | jobs (text : String) (readable : ∀ part ∈ sections, ¬ environment.Undecodable part)
      (missing : environment.sectionValue Worker.rules.toSection = .ok none)
      (database : Database.rules.LoadsAlone environment) (outbox : Outbox.rules.LoadsAlone environment)
      (teamSync : TeamSync.rules.LoadsAlone environment)
      (found : environment.value? "humans_worker__enabled_jobs" = some text)
      (garbled : Value.read? text = none) : Unreadable environment "enabled_jobs"

section Load

variable {rules : SectionRules α} {environment : Environment} {fields : List (String × Value)}
  {field : String}

/-- The first item of a kind in a list is one. -/
theorem first_unique {isMeant : α → Prop} {early early' later later' : List α} {item item' : α}
    (same : early ++ item :: later = early' ++ item' :: later') (before : ∀ other ∈ early, ¬ isMeant other)
    (here : isMeant item) (before' : ∀ other ∈ early', ¬ isMeant other) (here' : isMeant item') :
    item = item' := by
  induction early generalizing early' with
  | nil =>
    cases early' with
    | nil => exact (List.cons.inj same).1
    | cons first rest =>
      obtain ⟨rfl, _⟩ := List.cons.inj same
      exact absurd here (before' _ List.mem_cons_self)
  | cons first rest ih =>
    cases early' with
    | nil =>
      obtain ⟨rfl, _⟩ := List.cons.inj same
      exact absurd here' (before _ List.mem_cons_self)
    | cons first' rest' =>
      exact ih (List.cons.inj same).2 (List.forall_mem_cons.mp before).2
        (List.forall_mem_cons.mp before').2

/-- The section of the worker cannot read its own fields exactly if it cannot read the list of jobs. -/
theorem ownFields_worker_eq_error_iff :
    environment.ownFields Worker.rules.toSection = .error field ↔ field = "enabled_jobs"
      ∧ ∃ text, environment.value? "humans_worker__enabled_jobs" = some text ∧ Value.read? text = none := by
  rw [Environment.ownFields_eq_error_iff]
  simp only [Classical.not_not, Environment.ownField_eq_none_iff]
  constructor
  · rintro ⟨_, _, _, _, isList, garbled⟩
    obtain rfl : field = "enabled_jobs" := List.mem_singleton.mp isList
    exact ⟨rfl, garbled⟩
  · rintro ⟨rfl, garbled⟩
    refine ⟨["poll_interval_seconds", "shutdown_timeout_seconds"], [], rfl, ?_, List.mem_singleton.mpr rfl,
      garbled⟩
    intro other member
    rw [Ne, Environment.ownField_eq_none_iff]
    rintro ⟨isList, _⟩
    rw [List.mem_singleton.mp isList] at member
    exact absurd member (by decide)

variable (looks : ∀ part ∈ sections,
  Value.lookup part.name fields = none ↔ environment.sectionValue part = .ok none)

include looks

/-- A section of the whole goes through exactly if it can be loaded on its own where the whole does not find
it. -/
theorem exists_part_iff (member : rules.toSection ∈ sections) :
    (∃ checked, rules.part environment fields = .ok checked) ↔ rules.LoadsAlone environment := by
  unfold SectionRules.LoadsAlone
  rw [← looks _ member]
  cases loaded : rules.part environment fields with
  | ok checked =>
    refine iff_of_true ⟨checked, rfl⟩ fun missing => ?_
    cases alone : rules.load environment [] with
    | ok value => exact ⟨value, rfl⟩
    | error error =>
      rw [SectionRules.part_eq_error_iff.mpr ⟨missing, alone⟩] at loaded
      cases loaded
  | error error =>
    obtain ⟨missing, fails⟩ := SectionRules.part_eq_error_iff.mp loaded
    refine iff_of_false (by rintro ⟨_, ⟨⟩⟩) fun alone => ?_
    obtain ⟨value, loads⟩ := alone missing
    rw [fails] at loads
    cases loads

omit looks in
/-- A section without lists has no text at which it fails. -/
theorem part_ne_unreadable (noLists : rules.lists = []) :
    rules.part environment fields ≠ .error (.unreadable field) := by
  rw [Ne, SectionRules.part_eq_error_iff, SectionRules.load_eq_unreadable_iff]
  exact fun fails => Environment.ownFields_of_no_lists noLists field fails.2

end Load

/-- **Loading fails at a text exactly if that cannot be read.** -/
theorem load_eq_unreadable_iff {environment : Environment} {field : String} :
    load environment [] = .error (.unreadable field) ↔ Unreadable environment field := by
  rcases found_cases environment with
    ⟨fields, ran, readable, looks⟩ | ⟨early, part, later, split, before, garbled, fails⟩
  · obtain ⟨finish, same⟩ : ∃ finish : Checked Database → Checked Outbox → Checked TeamSync →
        Checked Worker → Checked Settings, load environment [] = (do
          let database ← Database.rules.part environment fields
          let outbox ← Outbox.rules.part environment fields
          let teamSync ← TeamSync.rules.part environment fields
          let worker ← Worker.rules.part environment fields
          (finish database outbox teamSync worker).toExcept) :=
      ⟨_, by unfold load; rw [ran]; rfl⟩
    have databaseIn : Database.rules.toSection ∈ sections := List.mem_cons_self
    have outboxIn : Outbox.rules.toSection ∈ sections := List.mem_cons_of_mem _ List.mem_cons_self
    have teamSyncIn : TeamSync.rules.toSection ∈ sections :=
      List.mem_cons_of_mem _ (List.mem_cons_of_mem _ List.mem_cons_self)
    have workerIn : Worker.rules.toSection ∈ sections :=
      List.mem_cons_of_mem _ (List.mem_cons_of_mem _ (List.mem_cons_of_mem _ List.mem_cons_self))
    rw [same]
    simp only [error_of_bind_iff]
    constructor
    · rintro (fails | ⟨database, databaseRead, fails | ⟨outbox, outboxRead, fails |
        ⟨teamSync, teamSyncRead, fails | ⟨worker, _, fails⟩⟩⟩⟩)
      · exact absurd fails (part_ne_unreadable rfl)
      · exact absurd fails (part_ne_unreadable rfl)
      · exact absurd fails (part_ne_unreadable rfl)
      · obtain ⟨missing, alone⟩ := SectionRules.part_eq_error_iff.mp fails
        obtain ⟨rfl, text, found, garbled⟩ :=
          ownFields_worker_eq_error_iff.mp (SectionRules.load_eq_unreadable_iff.mp alone)
        exact .jobs text readable ((looks _ workerIn).mp missing)
          ((exists_part_iff looks databaseIn).mp ⟨database, databaseRead⟩)
          ((exists_part_iff looks outboxIn).mp ⟨outbox, outboxRead⟩)
          ((exists_part_iff looks teamSyncIn).mp ⟨teamSync, teamSyncRead⟩) found garbled
      · cases finished : finish database outbox teamSync worker with
        | valid settings =>
          rw [finished] at fails
          cases fails
        | invalid problems =>
          rw [finished] at fails
          cases fails
    · rintro (⟨_, _, part, split, _, garbled⟩ | ⟨text, _, missing, database, outbox, teamSync, found, garbled⟩)
      · exact absurd garbled (readable part (split ▸ List.mem_append_right _ List.mem_cons_self))
      · obtain ⟨database, databaseRead⟩ := (exists_part_iff looks databaseIn).mpr database
        obtain ⟨outbox, outboxRead⟩ := (exists_part_iff looks outboxIn).mpr outbox
        obtain ⟨teamSync, teamSyncRead⟩ := (exists_part_iff looks teamSyncIn).mpr teamSync
        have alone : Worker.rules.load environment [] = .error (.unreadable "enabled_jobs") :=
          SectionRules.load_eq_unreadable_iff.mpr
            (ownFields_worker_eq_error_iff.mpr ⟨rfl, text, found, garbled⟩)
        exact .inr ⟨database, databaseRead, .inr ⟨outbox, outboxRead, .inr ⟨teamSync, teamSyncRead,
          .inl (SectionRules.part_eq_error_iff.mpr ⟨(looks _ workerIn).mpr missing, alone⟩)⟩⟩⟩
  · have failed : load environment [] = .error (.unreadable part.name) := by
      unfold load
      rw [fails]
      rfl
    rw [failed]
    constructor
    · rintro ⟨⟩
      exact .whole early later part split before garbled
    · rintro (⟨early', later', part', split', before', garbled'⟩ | ⟨_, readable, _, _, _, _, _, _⟩)
      · rw [first_unique (split.symm.trans split') before garbled before' garbled']
      · exact absurd garbled (readable part (split ▸ List.mem_append_right _ List.mem_cons_self))

end Roster.Settings
