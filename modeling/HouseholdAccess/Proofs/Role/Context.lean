import HouseholdAccess.Proofs.Role.Permits
import HouseholdAccess.Proofs.Sequence
import HouseholdAccess.Session

/-!
# Contexts that the store states

`World.contextOf` is the context of a user as the rows of the store state it, and
`World.readContext` what becomes of reading it, as the points of the reads may
fail; what is read is what is stated (`World.contextOf_of_readContext`).

The context of a user depends on the roles of the user, on the users whom the user
manages, and on the rows of the households that the user belongs to, and on
nothing else (`World.contextOf_congr`). A change of the rows about one user in one
household (`Change.IsMembership`) leaves the rows of all other users and of all
other households as they are (`Change.filter_rows`), and with them the contexts of
those who are somewhere else (`Change.contextOf_apply`).
-/

namespace HouseholdAccess

/-! ## Names that are texts -/

namespace World

variable {w w' : World} {user household : Id}

/-- All names in the store are texts. -/
structure HasTextNames (w : World) : Prop where
  rows : ∀ row ∈ w.rows, row.household.isText = true ∧ row.user.isText = true
  managers : ∀ m ∈ w.managers, m.1.isText = true ∧ m.2.isText = true

theorem storeName_of_isText {id : Id} (h : id.isText = true) : w.storeName id = id := by
  cases id with
  | text s =>
    rw [storeName]
    cases w.storeKind <;> rfl
  | _ => cases h

theorem cacheName_of_isText {id : Id} (h : id.isText = true) : w.cacheName id = id := by
  cases id with
  | text s =>
    rw [cacheName]
    cases w.cacheKind <;> rfl
  | _ => cases h

theorem sameName_iff {a b : Id} (ha : a.isText = true) (hb : b.isText = true) :
    w.sameName a b = true ↔ a = b := by
  rw [sameName, decide_eq_true_iff, storeName_of_isText ha, storeName_of_isText hb]

/-- Listing texts leaves out none and adds none. -/
theorem mem_listed {names : List Id} (h : ∀ name ∈ names, name.isText = true) {name : Id} :
    name ∈ w.listed names ↔ name ∈ names := by
  rw [listed]
  cases w.storeKind with
  | table => exact Iff.rfl
  | database =>
    -- A database writes names as texts, and lists them in order.
    have hnames : names.map w.storeName = names.map id :=
      List.map_congr_left fun name hname => storeName_of_isText (h name hname)
    rw [List.mem_mergeSort, hnames, List.map_id]

namespace HasTextNames

variable (h : w.HasTextNames)
include h

theorem membersOf_rows : ∀ name ∈ (w.rows.filter fun row => w.sameName row.household household).map
    (·.user), name.isText = true := by
  intro name hname
  obtain ⟨row, hrow, rfl⟩ := List.mem_map.1 hname
  exact (h.rows row (List.mem_filter.1 hrow).1).2

theorem mem_membersOf (hhousehold : household.isText = true) :
    user ∈ w.membersOf household ↔ ∃ row ∈ w.rows, row.household = household ∧ row.user = user := by
  rw [membersOf, mem_listed h.membersOf_rows, List.mem_map]
  constructor
  · rintro ⟨row, hrow, rfl⟩
    obtain ⟨hmem, hsame⟩ := List.mem_filter.1 hrow
    exact ⟨row, hmem, (sameName_iff (h.rows row hmem).1 hhousehold).1 hsame, rfl⟩
  · rintro ⟨row, hrow, hname, rfl⟩
    exact ⟨row, List.mem_filter.2 ⟨hrow, (sameName_iff (h.rows row hrow).1 hhousehold).2 hname⟩,
      rfl⟩

theorem isText_membersOf : ∀ name ∈ w.membersOf household, name.isText = true := fun name hname =>
  h.membersOf_rows name ((mem_listed h.membersOf_rows).1 hname)

theorem aiUsersOf_rows : ∀ name ∈ (w.rows.filter fun row =>
    w.sameName row.household household && isAiRole row.role).map (·.user), name.isText = true := by
  intro name hname
  obtain ⟨row, hrow, rfl⟩ := List.mem_map.1 hname
  exact (h.rows row (List.mem_filter.1 hrow).1).2

theorem mem_aiUsersOf (hhousehold : household.isText = true) :
    user ∈ w.aiUsersOf household ↔ ∃ row ∈ w.rows, row.user = user ∧ row.household = household ∧
      row.role = .text HouseholdRole.ai.token := by
  have hai {value : Value} : isAiRole value = true ↔ value = .text HouseholdRole.ai.token := by
    cases value <;> simp [isAiRole]
  rw [aiUsersOf, mem_listed h.aiUsersOf_rows, List.mem_map]
  refine exists_congr fun row => ?_
  rw [List.mem_filter, Bool.and_eq_true, hai, and_assoc]
  refine and_congr_right fun hrow => ?_
  rw [sameName_iff (h.rows row hrow).1 hhousehold, and_left_comm, and_comm (a := row.user = user),
    and_assoc, and_left_comm]

theorem isText_aiUsersOf : ∀ name ∈ w.aiUsersOf household, name.isText = true := fun name hname =>
  h.aiUsersOf_rows name ((mem_listed h.aiUsersOf_rows).1 hname)

theorem managedBy_rows : ∀ name ∈ (w.managers.filter fun m => w.sameName m.2 user).map Prod.fst,
    name.isText = true := by
  intro name hname
  obtain ⟨m, hm, rfl⟩ := List.mem_map.1 hname
  exact (h.managers m (List.mem_filter.1 hm).1).1

theorem mem_managedBy {other : Id} (huser : user.isText = true) :
    other ∈ w.managedBy user ↔ (other, user) ∈ w.managers := by
  rw [managedBy, mem_listed h.managedBy_rows, List.mem_map]
  constructor
  · rintro ⟨m, hm, rfl⟩
    obtain ⟨hmem, hsame⟩ := List.mem_filter.1 hm
    rw [sameName_iff (h.managers m hmem).2 huser] at hsame
    exact hsame ▸ hmem
  · intro hmem
    exact ⟨(other, user), List.mem_filter.2 ⟨hmem, (sameName_iff huser huser).2 rfl⟩, rfl⟩

theorem isText_managedBy : ∀ name ∈ w.managedBy user, name.isText = true := fun name hname =>
  h.managedBy_rows name ((mem_listed h.managedBy_rows).1 hname)

/-- The records of a user name the households of which the user is a member. -/
theorem mem_membersOf_of_record (huser : user.isText = true) {r : RoleRecord}
    (hr : r ∈ w.recordsOf user) (hhousehold : r.household = some household) :
    household.isText = true ∧ user ∈ w.membersOf household := by
  obtain ⟨row, hrow, rfl⟩ := List.mem_map.1 hr
  obtain ⟨hmem, hsame⟩ := List.mem_filter.1 hrow
  obtain ⟨htext, hname⟩ := h.rows row hmem
  have hnamed : row.household = household := by
    rw [← storeName_of_isText (w := w) htext]
    exact Option.some.inj hhousehold
  subst hnamed
  exact ⟨htext, (h.mem_membersOf htext).2 ⟨row, hmem, rfl, (sameName_iff hname huser).1 hsame⟩⟩

end HasTextNames

/-! ## Reading -/

/-- What becomes of a read about a user or a household that passes a point. -/
def attempt {α : Type} (w : World) (p : Point) (name : Id) (a : α) : Except Failure α :=
  (w.failureOf p (some name)).elim (.ok a) .error

/-- The context of a user as the rows of the store state it. -/
def contextOf (w : World) (user : Id) : Except Failure UserContext := do
  let records := w.recordsOf user
  let households ← records.mapM RoleRecord.readHousehold
  let managing ← UserContext.managedHouseholds records
  UserContext.ofRecords user records (w.managedBy user)
    (managing.map fun household => (household, w.aiUsersOf household))
    ((Policy.distinct households).map fun household => (household, w.membersOf household))

/-- What becomes of reading the context of a user. -/
def readContext (w : World) (user : Id) : Except Failure UserContext := do
  let records ← w.attempt .roles user (w.recordsOf user)
  let managed ← w.attempt .managed user (w.managedBy user)
  let households ← records.mapM RoleRecord.readHousehold
  let managing ← UserContext.managedHouseholds records
  let members ← (Policy.distinct households).mapM fun household =>
    w.attempt .members household (w.membersOf household)
  let aiUsers ← managing.mapM fun household =>
    w.attempt .aiUsers household (w.aiUsersOf household)
  UserContext.ofRecords user records managed (managing.zip aiUsers)
    ((Policy.distinct households).zip members)

theorem household_of_readHousehold {r : RoleRecord} (h : r.readHousehold = .ok household) :
    r.household = some household := by
  rw [RoleRecord.readHousehold] at h
  cases hr : r.household with
  | none =>
    rw [hr] at h
    cases h
  | some name =>
    rw [hr] at h
    cases h
    rfl

theorem failureOf_eq_none_iff {p : Point} {name : Option Id} :
    w.failureOf p name = none ↔ ∀ o ∈ w.failing, o.isFor p name = false := by
  rw [failureOf, Option.map_eq_none_iff, List.find?_eq_none]
  exact forall₂_congr fun _ _ => Bool.not_eq_true _ ▸ Iff.rfl

theorem eq_of_attempt {α : Type} {p : Point} {name : Id} {a b : α}
    (h : w.attempt p name a = .ok b) : b = a := by
  rw [attempt] at h
  cases hp : w.failureOf p (some name) with
  | none =>
    rw [hp] at h
    cases h
    rfl
  | some f =>
    rw [hp] at h
    cases h

/-- What is read is what the rows state. -/
theorem contextOf_of_readContext {c : UserContext} (h : w.readContext user = .ok c) :
    w.contextOf user = .ok c := by
  rw [readContext] at h
  obtain ⟨records, hrecords, h⟩ := exists_of_bind_eq_ok h
  obtain ⟨managed, hmanaged, h⟩ := exists_of_bind_eq_ok h
  obtain ⟨households, hhouseholds, h⟩ := exists_of_bind_eq_ok h
  obtain ⟨managing, hmanaging, h⟩ := exists_of_bind_eq_ok h
  obtain ⟨members, hmembers, h⟩ := exists_of_bind_eq_ok h
  obtain ⟨aiUsers, haiUsers, h⟩ := exists_of_bind_eq_ok h
  -- Each read has passed its point, and has come to what the rows state.
  obtain rfl := eq_of_attempt hrecords
  obtain rfl := eq_of_attempt hmanaged
  obtain rfl := eq_map_of_mapM_eq_ok (fun _ _ => eq_of_attempt) hmembers
  obtain rfl := eq_map_of_mapM_eq_ok (fun _ _ => eq_of_attempt) haiUsers
  rw [← List.map_prod_left_eq_zip, ← List.map_prod_left_eq_zip] at h
  rw [contextOf, hhouseholds, hmanaging]
  exact h

/-- Households that the records name as run by the user are named by the records. -/
theorem exists_record_of_managedHouseholds {records : List RoleRecord} {managing : List Id}
    (h : UserContext.managedHouseholds records = .ok managing) :
    ∀ household ∈ managing, ∃ r ∈ records, r.household = some household := by
  rw [UserContext.managedHouseholds] at h
  obtain ⟨memberships, hmemberships, h⟩ := exists_of_bind_eq_ok h
  cases h
  intro household hmem
  rw [Policy.distinct, List.mem_eraseDups, List.mem_map] at hmem
  obtain ⟨m, hm, rfl⟩ := hmem
  obtain ⟨r, hr, hread⟩ := exists_of_mapM_eq_ok hmemberships m (List.mem_filter.1 hm).1
  obtain ⟨role, -, hread⟩ := exists_of_bind_eq_ok hread
  obtain ⟨name, hname, hread⟩ := exists_of_bind_eq_ok hread
  cases hread
  exact ⟨r, hr, household_of_readHousehold hname⟩

/-- What the context of a user depends on. -/
theorem contextOf_congr (hrecords : w'.recordsOf user = w.recordsOf user)
    (hmanaged : w'.managedBy user = w.managedBy user)
    (hhouseholds : ∀ r ∈ w.recordsOf user, ∀ household, r.household = some household →
      w'.membersOf household = w.membersOf household ∧
        w'.aiUsersOf household = w.aiUsersOf household) :
    w'.contextOf user = w.contextOf user := by
  rw [contextOf, contextOf, hrecords, hmanaged]
  refine bind_congr_ok fun households hread => bind_congr_ok fun managing hmanaging => ?_
  have hmembers : ((Policy.distinct households).map fun household =>
      (household, w'.membersOf household)) =
        (Policy.distinct households).map fun household => (household, w.membersOf household) := by
    refine List.map_congr_left fun household hmem => ?_
    rw [Policy.distinct, List.mem_eraseDups] at hmem
    obtain ⟨r, hr, hr'⟩ := exists_of_mapM_eq_ok hread household hmem
    rw [(hhouseholds r hr household (household_of_readHousehold hr')).1]
  have haiUsers : (managing.map fun household => (household, w'.aiUsersOf household)) =
      managing.map fun household => (household, w.aiUsersOf household) := by
    refine List.map_congr_left fun household hmem => ?_
    obtain ⟨r, hr, hr'⟩ := exists_record_of_managedHouseholds hmanaging household hmem
    rw [(hhouseholds r hr household hr').2]
  rw [hmembers, haiUsers]

/-- The names in what is stated are texts. -/
theorem HasTextNames.contextOf {c : UserContext} (h : w.HasTextNames) (huser : user.isText = true)
    (hc : w.contextOf user = .ok c) : c.HasTextIds := by
  rw [World.contextOf] at hc
  obtain ⟨households, hhouseholds, hc⟩ := exists_of_bind_eq_ok hc
  obtain ⟨managing, hmanaging, hc⟩ := exists_of_bind_eq_ok hc
  rw [UserContext.ofRecords] at hc
  obtain ⟨memberships, hmemberships, hc⟩ := exists_of_bind_eq_ok hc
  cases hc
  refine ⟨huser, fun m hm => ?_, h.isText_managedBy, fun entry hentry => ?_, fun entry hentry => ?_⟩
  · obtain ⟨r, hr, hread⟩ := exists_of_mapM_eq_ok hmemberships m hm
    obtain ⟨name, hname, hread⟩ := exists_of_bind_eq_ok hread
    obtain ⟨role, -, hread⟩ := exists_of_bind_eq_ok hread
    cases hread
    exact (h.mem_membersOf_of_record huser hr (household_of_readHousehold hname)).1
  · obtain ⟨household, -, rfl⟩ := List.mem_map.1 hentry
    exact h.isText_aiUsersOf
  · obtain ⟨household, -, rfl⟩ := List.mem_map.1 hentry
    exact h.isText_membersOf

end World

/-! ## Changes -/

namespace Change

variable {w : World} {c : Change} {household user other : Id}

/-- The change is about a user in a household. -/
def IsMembership (household user : Id) : Change → Prop
  | .addMember row => row.household = household ∧ row.user = user
  | .removeMember h u | .setRole h u _ => h = household ∧ u = user
  | _ => False

/-- Rows that are not about the user in the household stay, and stay in order. -/
theorem filter_rows (hc : c.IsMembership household user) {p : MemberRow → Bool}
    (hp : ∀ row, row.household = household → row.user = user → p row = false) :
    (c.apply w).rows.filter p = w.rows.filter p := by
  cases c with
  | addMember row =>
    obtain ⟨hhousehold, huser⟩ := hc
    simp [apply, List.filter_append, hp row hhousehold huser]
  | removeMember h u =>
    obtain ⟨rfl, rfl⟩ := hc
    rw [apply, List.filter_filter]
    refine List.filter_congr fun row _ => ?_
    by_cases habout : row.household = h ∧ row.user = u
    · rw [hp row habout.1 habout.2, Bool.false_and]
    · have hnot : isAbout h u row = false := by
        simpa [isAbout] using habout
      rw [hnot, Bool.not_false, Bool.and_true]
  | setRole h u role =>
    obtain ⟨rfl, rfl⟩ := hc
    simp only [apply]
    induction w.rows with
    | nil => rfl
    | cons row rest ih =>
      rw [List.map_cons, List.filter_cons, List.filter_cons, ih]
      -- The row is about the user in the household with its old role and with the new one.
      by_cases habout : isAbout h u row = true
      · have hnames : row.household = h ∧ row.user = u := by simpa [isAbout] using habout
        rw [if_pos habout, hp row hnames.1 hnames.2, hp { row with role } hnames.1 hnames.2]
        rfl
      · rw [if_neg habout]
  | _ => exact hc.elim

theorem recordsOf_apply (c : Change) (w : World) (user : Id) :
    (c.apply w).recordsOf user =
      ((c.apply w).rows.filter fun row => w.sameName row.user user).map w.record := by
  cases c <;> rfl

theorem membersOf_apply (c : Change) (w : World) (household : Id) :
    (c.apply w).membersOf household = w.listed
      (((c.apply w).rows.filter fun row => w.sameName row.household household).map (·.user)) := by
  cases c <;> rfl

theorem aiUsersOf_apply (c : Change) (w : World) (household : Id) :
    (c.apply w).aiUsersOf household = w.listed (((c.apply w).rows.filter fun row =>
      w.sameName row.household household && World.isAiRole row.role).map (·.user)) := by
  cases c <;> rfl

theorem managedBy_apply (hc : c.IsMembership household user) (w : World) (manager : Id) :
    (c.apply w).managedBy manager = w.managedBy manager := by
  cases c <;> first | rfl | exact hc.elim

/-- A membership that changes is no concern of other users who are not members of the household. -/
theorem contextOf_apply (hc : c.IsMembership household user) (hw : w.HasTextNames)
    (hhousehold : household.isText = true) (huser : user.isText = true)
    (hother : other.isText = true) (hne : other ≠ user) (hout : other ∉ w.membersOf household) :
    (c.apply w).contextOf other = w.contextOf other := by
  have hsame {a b : Id} (ha : a.isText = true) (hb : b.isText = true) (hab : a ≠ b) :
      w.sameName a b = false := by
    rw [← Bool.not_eq_true, World.sameName_iff ha hb]
    exact hab
  refine World.contextOf_congr ?_ (managedBy_apply hc w other) fun r hr name hname => ?_
  · rw [recordsOf_apply, filter_rows hc]
    · rfl
    · rintro row - rfl
      exact hsame huser hother (Ne.symm hne)
  · obtain ⟨htext, hmember⟩ := hw.mem_membersOf_of_record hother hr hname
    -- A household of the other user is not the one of the change.
    have hnamed : household ≠ name := by
      rintro rfl
      exact hout hmember
    constructor
    · rw [membersOf_apply, filter_rows hc]
      · rfl
      · rintro row rfl -
        exact hsame hhousehold htext hnamed
    · rw [aiUsersOf_apply, filter_rows hc]
      · rfl
      · rintro row rfl -
        rw [hsame hhousehold htext hnamed, Bool.false_and]

/-- That someone is managed by someone else is no concern of those who manage whom they managed. -/
theorem contextOf_setManager {manager : Option Id}
    (h : ((setManager user manager).apply w).managedBy other = w.managedBy other) :
    ((setManager user manager).apply w).contextOf other = w.contextOf other :=
  World.contextOf_congr rfl h fun _ _ _ _ => ⟨rfl, rfl⟩

end Change

end HouseholdAccess
