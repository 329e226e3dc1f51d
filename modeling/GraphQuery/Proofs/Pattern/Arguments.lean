import GraphQuery.Pattern.Arguments
import GraphQuery.Proofs.Parameter.Table
import Mathlib.Data.List.Nodup

/-!
# Where the arguments of a pattern go

What an argument is for follows from its type and its place. Arguments are accepted just if each of
them is for something, in the order name, labels, conditions, and if what they give is valid; then
each is accounted for once, and moving them to the places of their roles changes nothing
(`parse_arguments`).
-/

namespace GraphQuery

/-- The complaint is that a value of the wrong type was found. -/
def ArgumentError.IsAboutType : ArgumentError → Prop
  | .nameNotIdentifier _ | .emptyLabel => False
  | _ => True

namespace PatternArguments

/-! ## Roles -/

/-- What a value is for, by its type and its place. Places are called by the roles that they are
meant for. -/
def roleAt : ArgumentRole → Json → Option ArgumentRole
  | .name, .string _ => some .name
  | .name, .array _ => some .labels
  | .labels, .string _ => some .labels
  | .labels, .array _ => some .labels
  | _, .object _ => some .conditions
  | _, _ => none

def listed (name labels conditions : Option Json) : List (ArgumentRole × Json) :=
  (name.map (.name, ·)).toList ++ (labels.map (.labels, ·)).toList ++
    (conditions.map (.conditions, ·)).toList

/-- The arguments that are there, each with its place. -/
def given (name labels conditions : Option Json) : List (ArgumentRole × Json) :=
  listed (present name) (present labels) (present conditions)

def roles (args : List (ArgumentRole × Json)) : List (Option ArgumentRole) :=
  args.map fun a => roleAt a.1 a.2

/-- Every argument has a role, and the roles follow one another with none of them twice. -/
def Orderly (args : List (ArgumentRole × Json)) : Prop :=
  (roles args).Sublist [some .name, some .labels, some .conditions]

/-- The argument that has a role. -/
def inRole (role : ArgumentRole) (args : List (ArgumentRole × Json)) : Option Json :=
  (args.find? fun a => roleAt a.1 a.2 = some role).map (·.2)

section
variable {v : Json}

theorem exists_object {place : ArgumentRole} (h : roleAt place v = some .conditions) :
    ∃ members, v = .object members := by
  cases place <;> cases v <;> simp_all [roleAt]

theorem exists_array (h : roleAt .name v = some .labels) : ∃ items, v = .array items := by
  cases v <;> simp_all [roleAt]

theorem roleAt_labels_ne_name : roleAt .labels v ≠ some .name := by
  cases v <;> simp [roleAt]

theorem roleAt_conditions_ne_name : roleAt .conditions v ≠ some .name := by
  cases v <;> simp [roleAt]

theorem roleAt_conditions_ne_labels : roleAt .conditions v ≠ some .labels := by
  cases v <;> simp [roleAt]

end

theorem Orderly.isSome {args : List (ArgumentRole × Json)} (h : Orderly args)
    {a : ArgumentRole × Json} (ha : a ∈ args) : ∃ role, roleAt a.1 a.2 = some role := by
  have hmem := h.subset (List.mem_map_of_mem ha)
  simp only [List.mem_cons, List.not_mem_nil, or_false] at hmem
  rcases hmem with hrole | hrole | hrole <;> exact ⟨_, hrole⟩

theorem Orderly.nodup {args : List (ArgumentRole × Json)} (h : Orderly args) :
    (roles args).Nodup :=
  List.Sublist.nodup h (by decide)

theorem Orderly.inRole_eq {args : List (ArgumentRole × Json)} (h : Orderly args)
    {a : ArgumentRole × Json} (ha : a ∈ args) {role : ArgumentRole}
    (hrole : roleAt a.1 a.2 = some role) : inRole role args = some a.2 := by
  have hfind : args.find? (fun b => roleAt b.1 b.2 = roleAt a.1 a.2) = some a :=
    ParameterTable.find?_of_nodup h.nodup ha
  rw [inRole, ← hrole, hfind]
  rfl

/-! ## Places -/

/-- The argument in a place, if there is one, has the role that the place is meant for. -/
def AtHome (place : ArgumentRole) (v : Option Json) : Prop :=
  ∀ w ∈ v, roleAt place w = some place

section
variable {v : Option Json}

theorem atHome_none {place : ArgumentRole} : AtHome place none := by simp [AtHome]

theorem atHome_some {place : ArgumentRole} {w : Json} :
    AtHome place (some w) ↔ roleAt place w = some place := by simp [AtHome]

theorem atHome_name_iff : AtHome .name v ↔ v = none ∨ ∃ s, v = some (.string s) := by
  rcases v with _ | w
  · simp [AtHome]
  · cases w <;> simp [AtHome, roleAt]

theorem atHome_labels_iff : AtHome .labels v ↔
    v = none ∨ (∃ s, v = some (.string s)) ∨ ∃ items, v = some (.array items) := by
  rcases v with _ | w
  · simp [AtHome]
  · cases w <;> simp [AtHome, roleAt]

theorem atHome_conditions_iff :
    AtHome .conditions v ↔ v = none ∨ ∃ members, v = some (.object members) := by
  rcases v with _ | w
  · simp [AtHome]
  · cases w <;> simp [AtHome, roleAt]

theorem present_of_atHome {place : ArgumentRole} (h : AtHome place v) : present v = v := by
  rcases v with _ | w
  · rfl
  · cases w with
    | null => cases place <;> exact absurd (atHome_some.mp h) (by decide)
    | _ => rfl

end

/-- Arguments where they are given, and the same arguments where they belong. -/
inductive Arranged : Option Json → Option Json → Option Json →
    Option Json × Option Json × Option Json → Prop
  | inPlace {name labels conditions} : AtHome .name name → AtHome .labels labels →
      AtHome .conditions conditions → Arranged name labels conditions (name, labels, conditions)
  | labelsFirst {items conditions} : AtHome .conditions conditions →
      Arranged (some (.array items)) none conditions (none, some (.array items), conditions)
  | conditionsSecond {name members} : AtHome .name name →
      Arranged name (some (.object members)) none (name, none, some (.object members))
  | conditionsFirst {members} :
      Arranged (some (.object members)) none none (none, none, some (.object members))
  | bothEarly {items members} : Arranged (some (.array items)) (some (.object members)) none
      (none, some (.array items), some (.object members))

section
variable {a b c : Option Json} {slots : Option Json × Option Json × Option Json}

theorem exists_arranged (h : Orderly (listed a b c)) : ∃ slots, Arranged a b c slots := by
  unfold Orderly at h
  -- what the order leaves of the roles that the arguments could have in their places
  rcases a with _ | v <;> rcases b with _ | w <;> rcases c with _ | x <;>
    simp only [roles, listed, Option.map_none, Option.map_some, Option.toList_none,
      Option.toList_some, List.nil_append, List.cons_append, List.map_cons, List.map_nil,
      List.cons_sublist_cons', List.nil_sublist, List.sublist_nil, reduceCtorEq,
      roleAt_labels_ne_name, roleAt_conditions_ne_name, roleAt_conditions_ne_labels, false_and,
      and_false, and_true, false_or, or_false] at h
  · exact ⟨_, .inPlace atHome_none atHome_none atHome_none⟩
  · exact ⟨_, .inPlace atHome_none atHome_none (atHome_some.mpr h)⟩
  · rcases h with hw | hw
    · obtain ⟨members, rfl⟩ := exists_object hw
      exact ⟨_, .conditionsSecond atHome_none⟩
    · exact ⟨_, .inPlace atHome_none (atHome_some.mpr hw) atHome_none⟩
  · exact ⟨_, .inPlace atHome_none (atHome_some.mpr h.1) (atHome_some.mpr h.2)⟩
  · rcases h with (hv | hv) | hv
    · obtain ⟨members, rfl⟩ := exists_object hv
      exact ⟨_, .conditionsFirst⟩
    · obtain ⟨items, rfl⟩ := exists_array hv
      exact ⟨_, .labelsFirst atHome_none⟩
    · exact ⟨_, .inPlace (atHome_some.mpr hv) atHome_none atHome_none⟩
  · rcases h with ⟨hv, hx⟩ | ⟨hv, hx⟩
    · obtain ⟨items, rfl⟩ := exists_array hv
      exact ⟨_, .labelsFirst (atHome_some.mpr hx)⟩
    · exact ⟨_, .inPlace (atHome_some.mpr hv) atHome_none (atHome_some.mpr hx)⟩
  · rcases h with ⟨hv, hw⟩ | ⟨hv, hw | hw⟩
    · obtain ⟨items, rfl⟩ := exists_array hv
      obtain ⟨members, rfl⟩ := exists_object hw
      exact ⟨_, .bothEarly⟩
    · obtain ⟨members, rfl⟩ := exists_object hw
      exact ⟨_, .conditionsSecond (atHome_some.mpr hv)⟩
    · exact ⟨_, .inPlace (atHome_some.mpr hv) (atHome_some.mpr hw) atHome_none⟩
  · exact ⟨_, .inPlace (atHome_some.mpr h.1) (atHome_some.mpr h.2.1) (atHome_some.mpr h.2.2)⟩

theorem Arranged.place_eq (h : Arranged a b c slots) : place a b c = slots ∧
    Orderly (listed a b c) ∧ slots = (inRole .name (listed a b c), inRole .labels (listed a b c),
      inRole .conditions (listed a b c)) := by
  cases h with
  | inPlace hname hlabels hconditions =>
    rcases atHome_name_iff.mp hname with rfl | ⟨s, rfl⟩ <;>
      rcases atHome_labels_iff.mp hlabels with rfl | ⟨t, rfl⟩ | ⟨items, rfl⟩ <;>
        rcases atHome_conditions_iff.mp hconditions with rfl | ⟨members, rfl⟩ <;>
          exact ⟨rfl, List.isSublist_iff_sublist.mp rfl, rfl⟩
  | labelsFirst hconditions =>
    rcases atHome_conditions_iff.mp hconditions with rfl | ⟨members, rfl⟩ <;>
      exact ⟨rfl, List.isSublist_iff_sublist.mp rfl, rfl⟩
  | conditionsSecond hname =>
    rcases atHome_name_iff.mp hname with rfl | ⟨s, rfl⟩ <;>
      exact ⟨rfl, List.isSublist_iff_sublist.mp rfl, rfl⟩
  | conditionsFirst => exact ⟨rfl, List.isSublist_iff_sublist.mp rfl, rfl⟩
  | bothEarly => exact ⟨rfl, List.isSublist_iff_sublist.mp rfl, rfl⟩

theorem Arranged.atHome (h : Arranged a b c slots) :
    AtHome .name slots.1 ∧ AtHome .labels slots.2.1 ∧ AtHome .conditions slots.2.2 := by
  cases h with
  | inPlace hname hlabels hconditions => exact ⟨hname, hlabels, hconditions⟩
  | labelsFirst hconditions => exact ⟨atHome_none, atHome_some.mpr rfl, hconditions⟩
  | conditionsSecond hname => exact ⟨hname, atHome_none, atHome_some.mpr rfl⟩
  | conditionsFirst => exact ⟨atHome_none, atHome_none, atHome_some.mpr rfl⟩
  | bothEarly => exact ⟨atHome_none, atHome_some.mpr rfl, atHome_some.mpr rfl⟩

theorem arranged_of_place {name labels conditions : Option Json}
    (h : place a b c = (name, labels, conditions)) (hname : AtHome .name name)
    (hlabels : AtHome .labels labels) (hconditions : AtHome .conditions conditions) :
    Arranged a b c (name, labels, conditions) := by
  unfold place at h
  split at h
  rename_i hmoved
  split at hmoved <;> cases hmoved
  · split at h <;> cases h
    · exact .bothEarly
    · exact .conditionsSecond hname
  · split at h <;> cases h
    · contradiction
    · exact .conditionsFirst
  · split at h <;> cases h
    · exact .labelsFirst hconditions
    · exact .inPlace hname hlabels hconditions

end

/-! ## What arguments give -/

/-- What an argument gives in its role: a name, the labels in their order or the only label, or
conditions. -/
def Gives (args : PatternArguments) : ArgumentRole → Option Json → Prop
  | .name, none => args.name = ""
  | .name, some v => v = .string args.name
  | .labels, none => args.labels = []
  | .labels, some v =>
    v = .array (args.labels.map .string) ∨ ∃ label, v = .string label ∧ args.labels = [label]
  | .conditions, none => args.conditions = []
  | .conditions, some v => v = .object args.conditions

section
variable {args : PatternArguments} {v : Option Json}

theorem Gives.atHome {role : ArgumentRole} (h : args.Gives role v) : AtHome role v := by
  rintro w rfl
  cases role with
  | labels =>
    rcases h with rfl | ⟨label, rfl, _⟩ <;> rfl
  | _ =>
    cases h
    rfl

theorem nameOf_eq_ok_iff : nameOf v = .ok args.name ↔ args.Gives .name v := by
  rcases v with _ | w
  · rw [nameOf, Gives, Except.ok.injEq, eq_comm]
  · cases w <;> simp [nameOf, Gives]

theorem labelList_map (labels : List String) : labelList (labels.map .string) = .ok labels := by
  induction labels with
  | nil => rfl
  | cons s rest ih => rw [List.map_cons, labelList, ih]; rfl

theorem eq_map_of_labelList {items : List Json} {labels : List String}
    (h : labelList items = .ok labels) : items = labels.map .string := by
  induction items generalizing labels with
  | nil => cases h; rfl
  | cons v rest ih =>
    cases v with
    | string s =>
      rw [labelList] at h
      cases hrest : labelList rest with
      | error e => rw [hrest] at h; cases h
      | ok others =>
        rw [hrest] at h
        cases h
        rw [List.map_cons, ih hrest]
    | _ => cases h

theorem labelsOf_eq_ok_iff : labelsOf v = .ok args.labels ↔ args.Gives .labels v := by
  rcases v with _ | w
  · rw [labelsOf, Gives, Except.ok.injEq, eq_comm]
  · cases w with
    | string s => simp [labelsOf, Gives, eq_comm]
    | array items =>
      refine ⟨fun h => .inl (congrArg _ (eq_map_of_labelList h)), ?_⟩
      rintro (h | ⟨_, h, _⟩) <;> cases h
      exact labelList_map _
    | _ => simp [labelsOf, Gives]

theorem conditionsOf_eq_ok_iff : conditionsOf v = .ok args.conditions ↔
    args.Gives .conditions v := by
  rcases v with _ | w
  · rw [conditionsOf, Gives, Except.ok.injEq, eq_comm]
  · cases w <;> simp [conditionsOf, Gives]

variable {e : ArgumentError}

theorem isAboutType_of_nameOf (h : nameOf v = .error e) : e.IsAboutType := by
  rcases v with _ | w
  · cases h
  · cases w <;> cases h <;> trivial

theorem isAboutType_of_labelList {items : List Json} (h : labelList items = .error e) :
    e.IsAboutType := by
  induction items with
  | nil => cases h
  | cons v rest ih =>
    cases v with
    | string s =>
      rw [labelList] at h
      cases hrest : labelList rest with
      | error e' =>
        rw [hrest] at h
        cases h
        exact ih hrest
      | ok others => rw [hrest] at h; cases h
    | _ => cases h; trivial

theorem isAboutType_of_labelsOf (h : labelsOf v = .error e) : e.IsAboutType := by
  rcases v with _ | w
  · cases h
  · cases w with
    | string s => cases h
    | array items => exact isAboutType_of_labelList h
    | _ => cases h; trivial

theorem isAboutType_of_conditionsOf (h : conditionsOf v = .error e) : e.IsAboutType := by
  rcases v with _ | w
  · cases h
  · cases w <;> cases h <;> trivial

end

/-! ## Accepted arguments -/

theorem validate_eq_ok_iff {args : PatternArguments} : args.validate = .ok args ↔
    (args.name = "" ∨ Text.isIdentifier args.name.toList) ∧ "" ∉ args.labels := by
  unfold validate
  by_cases hname : args.name = ""
  · by_cases hlabel : "" ∈ args.labels <;> simp [hname, hlabel]
  · by_cases hidentifier : Text.isIdentifier args.name.toList <;>
      by_cases hlabel : "" ∈ args.labels <;> simp [hname, hidentifier, hlabel]

theorem eq_of_validate {args args' : PatternArguments} (h : args.validate = .ok args') :
    args' = args := by
  unfold validate at h
  split_ifs at h
  cases h
  rfl

/-- What arguments give that are in the places of their roles. -/
def Reads (args : PatternArguments) (slots : Option Json × Option Json × Option Json) : Prop :=
  args.Gives .name slots.1 ∧ args.Gives .labels slots.2.1 ∧ args.Gives .conditions slots.2.2

section
variable {name labels conditions : Option Json} {args : PatternArguments}

theorem parse_of_reads
    (h : args.Reads (place (present name) (present labels) (present conditions))) :
    parse name labels conditions = args.validate := by
  obtain ⟨hname, hlabels, hconditions⟩ := h
  unfold parse
  simp only [nameOf_eq_ok_iff.mpr hname, labelsOf_eq_ok_iff.mpr hlabels,
    conditionsOf_eq_ok_iff.mpr hconditions]
  rfl

theorem reads_or_isAboutType (name labels conditions : Option Json) :
    (∃ args : PatternArguments,
      args.Reads (place (present name) (present labels) (present conditions))) ∨
    ∃ e, parse name labels conditions = .error e ∧ e.IsAboutType := by
  unfold parse
  obtain ⟨a, b, c⟩ := place (present name) (present labels) (present conditions)
  dsimp only
  cases hname : nameOf a with
  | error e => exact .inr ⟨e, rfl, isAboutType_of_nameOf hname⟩
  | ok n =>
    cases hlabels : labelsOf b with
    | error e => exact .inr ⟨e, rfl, isAboutType_of_labelsOf hlabels⟩
    | ok l =>
      cases hconditions : conditionsOf c with
      | error e => exact .inr ⟨e, rfl, isAboutType_of_conditionsOf hconditions⟩
      | ok m =>
        exact .inl ⟨⟨n, l, m⟩, nameOf_eq_ok_iff.mp hname, labelsOf_eq_ok_iff.mp hlabels,
          conditionsOf_eq_ok_iff.mp hconditions⟩

theorem Reads.orderly
    (h : args.Reads (place (present name) (present labels) (present conditions))) :
    Orderly (given name labels conditions) ∧
      ∀ role, args.Gives role (inRole role (given name labels conditions)) := by
  have harranged := arranged_of_place rfl h.1.atHome h.2.1.atHome h.2.2.atHome
  obtain ⟨-, horderly, hslots⟩ := harranged.place_eq
  change place _ _ _ = (inRole .name (given name labels conditions),
    inRole .labels (given name labels conditions),
    inRole .conditions (given name labels conditions)) at hslots
  rw [hslots] at h
  refine ⟨horderly, fun role => ?_⟩
  cases role with
  | name => exact h.1
  | labels => exact h.2.1
  | conditions => exact h.2.2

section
variable (h : Orderly (given name labels conditions))
include h

theorem place_eq_inRole : place (present name) (present labels) (present conditions) =
    (inRole .name (given name labels conditions), inRole .labels (given name labels conditions),
      inRole .conditions (given name labels conditions)) := by
  obtain ⟨slots, harranged⟩ := exists_arranged h
  obtain ⟨hplace, -, hslots⟩ := harranged.place_eq
  exact hplace.trans hslots

theorem atHome_inRole (role : ArgumentRole) :
    AtHome role (inRole role (given name labels conditions)) := by
  obtain ⟨slots, harranged⟩ := exists_arranged h
  obtain ⟨-, -, rfl⟩ := harranged.place_eq
  cases role with
  | name => exact harranged.atHome.1
  | labels => exact harranged.atHome.2.1
  | conditions => exact harranged.atHome.2.2

theorem parse_inRole : parse (inRole .name (given name labels conditions))
    (inRole .labels (given name labels conditions))
    (inRole .conditions (given name labels conditions)) = parse name labels conditions := by
  have hname := atHome_inRole h .name
  have hlabels := atHome_inRole h .labels
  have hconditions := atHome_inRole h .conditions
  have hplace := (Arranged.inPlace hname hlabels hconditions).place_eq.1
  rw [parse, parse, present_of_atHome hname, present_of_atHome hlabels,
    present_of_atHome hconditions, hplace, place_eq_inRole h]

end

theorem parse_eq_ok_iff : parse name labels conditions = .ok args ↔
    Orderly (given name labels conditions) ∧
      (∀ role, args.Gives role (inRole role (given name labels conditions))) ∧
      (args.name = "" ∨ Text.isIdentifier args.name.toList) ∧ "" ∉ args.labels := by
  constructor
  · intro hparse
    rcases reads_or_isAboutType name labels conditions with ⟨args', hreads⟩ | ⟨e, herror, _⟩
    · rw [parse_of_reads hreads] at hparse
      obtain rfl := eq_of_validate hparse
      exact ⟨hreads.orderly.1, hreads.orderly.2, validate_eq_ok_iff.mp hparse⟩
    · rw [herror] at hparse
      cases hparse
  · rintro ⟨horderly, hgives, hvalid⟩
    have hreads : args.Reads (place (present name) (present labels) (present conditions)) := by
      rw [place_eq_inRole horderly]
      exact ⟨hgives .name, hgives .labels, hgives .conditions⟩
    rw [parse_of_reads hreads, validate_eq_ok_iff.mpr hvalid]

theorem exists_error_of_not_orderly (h : ¬ Orderly (given name labels conditions)) :
    ∃ e, parse name labels conditions = .error e ∧ e.IsAboutType :=
  (reads_or_isAboutType name labels conditions).resolve_left fun ⟨_, hreads⟩ =>
    h hreads.orderly.1

end

/-- Null counts as missing in every place. Arguments are accepted just if they are in order and
give a name that is empty or an identifier, labels none of which is empty, and conditions. Each
argument is then the only one with its role, and is read as if it were in the place of its role.
An argument that is for nothing, or for what another one is for, is complained about. -/
theorem parse_arguments (name labels conditions : Option Json) :
    (parse (some .null) labels conditions = parse none labels conditions ∧
      parse name (some .null) conditions = parse name none conditions ∧
      parse name labels (some .null) = parse name labels none) ∧
    (∀ args, parse name labels conditions = .ok args ↔
      Orderly (given name labels conditions) ∧
      (∀ role, args.Gives role (inRole role (given name labels conditions))) ∧
      (args.name = "" ∨ Text.isIdentifier args.name.toList) ∧ "" ∉ args.labels) ∧
    (Orderly (given name labels conditions) →
      (∀ a ∈ given name labels conditions, ∃ role, roleAt a.1 a.2 = some role ∧
        inRole role (given name labels conditions) = some a.2 ∧
        ∀ b ∈ given name labels conditions, roleAt b.1 b.2 = some role → b = a) ∧
      (roles (given name labels conditions)).Nodup ∧
      parse name labels conditions = parse (inRole .name (given name labels conditions))
        (inRole .labels (given name labels conditions))
        (inRole .conditions (given name labels conditions))) ∧
    ((∃ a ∈ given name labels conditions, roleAt a.1 a.2 = none) ∨
        ¬ (roles (given name labels conditions)).Nodup →
      ∃ e, parse name labels conditions = .error e ∧ e.IsAboutType) := by
  refine ⟨⟨rfl, rfl, rfl⟩, fun _ => parse_eq_ok_iff, fun h => ⟨fun a ha => ?_, h.nodup,
    (parse_inRole h).symm⟩, fun hlost => exists_error_of_not_orderly fun h => ?_⟩
  · obtain ⟨role, hrole⟩ := h.isSome ha
    refine ⟨role, hrole, h.inRole_eq ha hrole, fun b hb hrole' => ?_⟩
    exact List.inj_on_of_nodup_map h.nodup hb ha (hrole'.trans hrole.symm)
  · rcases hlost with ⟨a, ha, hnone⟩ | hcompete
    · obtain ⟨role, hrole⟩ := h.isSome ha
      rw [hnone] at hrole
      cases hrole
    · exact hcompete h.nodup

/-- Labels and conditions that are each a place too early, and labels that are given twice. -/
theorem parse_arguments_early :
    parse (some (.array [.string "Person", .string "Admin"]))
        (some (.object [("active", .bool true)])) (some .null) =
      .ok ⟨"", ["Person", "Admin"], [("active", .bool true)]⟩ ∧
    parse none (some (.array [.string "Person", .string "Admin"]))
        (some (.object [("active", .bool true)])) =
      .ok ⟨"", ["Person", "Admin"], [("active", .bool true)]⟩ ∧
    ∃ e, parse (some (.array [.string "Person"])) (some (.string "Admin")) none = .error e ∧
      e.IsAboutType := by
  have hearly := parse_arguments (some (.array [.string "Person", .string "Admin"]))
    (some (.object [("active", .bool true)])) (some .null)
  have horderly : Orderly (given (some (.array [.string "Person", .string "Admin"]))
      (some (.object [("active", .bool true)])) (some .null)) :=
    List.isSublist_iff_sublist.mp rfl
  have hparse := (hearly.2.1 ⟨"", ["Person", "Admin"], [("active", .bool true)]⟩).mpr
    ⟨horderly, fun role => by cases role <;> first | rfl | exact .inl rfl, .inl rfl, by decide⟩
  exact ⟨hparse, (hearly.2.2.1 horderly).2.2.symm.trans hparse,
    (parse_arguments _ _ _).2.2.2 (.inr (by decide))⟩

end PatternArguments

end GraphQuery
