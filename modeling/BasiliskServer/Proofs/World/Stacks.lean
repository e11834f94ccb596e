import BasiliskServer.Proofs.World.View.Connections

/-!
# How the points of a task fit together

The points of a task form a stack: what a point comes to is passed to the point below it. Most
points take whatever comes; some rely on what the point above them reports, such as the number of a
process that was started. `Role` says what is reported, and a stack fits together (`Fits`) if every
point reports what the point below it expects. A task that waits stands at a point that takes
whatever comes, or at its ticket for the keeper.

Two kinds of points are counted: those at which a task sees to the connection, and, above one of
these, those at which it starts the connection. Since there are never more starts than tasks that
wait for a start (`countP_isStart_le`), a keeper that is seen to by one task only starts one
connection only.
-/

namespace BasiliskServer.World

open Json (Value Fields)

/-- What a point relies on being told. -/
inductive Role where
  /-- Which process was started. -/
  | process
  /-- Whether a channel has got its process. -/
  | opening (channel : Nat)
  /-- Whether a connection has become ready. -/
  | readiness
  /-- Whether a companion process was started. -/
  | service
  /-- That it is our turn. -/
  | turn
  /-- That a ticket was called. -/
  | ticket (number : Nat)
  deriving DecidableEq

/-- The ticket with which a task waits at a point for its turn. -/
def Point.ticket? : Point → Option Nat
  | .keeper (.admitted _ ticket) => ticket
  | .keeper (.admittedToStop ticket) => ticket
  | _ => none

/-- What a point relies on being told. -/
def Point.expects : Point → Option Role
  | .channel (.opened _) => some .process
  | .connection (.opened _ number) => some (.opening number)
  | .keeper (.connected _) => some .readiness
  | .session (.ensured _) => some .service
  | .keeper (.admitted _ ticket) | .keeper (.admittedToStop ticket) =>
    some (ticket.elim .turn .ticket)
  | _ => none

/-- What a point tells the point below it. -/
def Point.reports : Point → Option Role
  | .program (.starting _ _) => some .process
  | .channel (.opened number) => some (.opening number)
  | .connection (.opened _ _) | .connection .abandoned | .connection (.greeted _ _ _)
  | .connection (.refused _) => some .readiness
  | .keeper (.admitted _ _) | .keeper .cleared | .keeper (.vacated _) | .keeper (.connected _)
  | .keeper (.failed _) => some .service
  | _ => none

/-! ## Stacks that fit together -/

/-- What the first of some points expects; what the point below them expects if there are none. -/
def lead (below : Option Role) : List Point → Option Role
  | [] => below
  | point :: _ => point.expects

/-- Every point reports what the next one expects. -/
def Fits (below : Option Role) : List Point → Prop
  | [] => True
  | point :: rest => point.reports = lead below rest ∧ Fits below rest

theorem lead_append (below : Option Role) (front rest : List Point) :
    lead below (front ++ rest) = lead (lead below rest) front := by
  cases front <;> rfl

theorem fits_append {below : Option Role} {front rest : List Point} :
    Fits below (front ++ rest) ↔ Fits (lead below rest) front ∧ Fits below rest := by
  induction front with
  | nil => simp [Fits]
  | cons point front ih => simp [Fits, ih, lead_append, and_assoc]

/-- A point that takes whatever comes, and on which no other point relies. -/
theorem roles_of_allows {v : View} {point : Point} (h : v.Allows point) :
    point.expects = none ∧ point.reports = none := by
  rcases h with hplain | ⟨number, hcloses, -⟩
  · cases point with
    | start activity => exact ⟨rfl, rfl⟩
    | wait point => exact ⟨rfl, rfl⟩
    | tool point => exact ⟨rfl, rfl⟩
    | keeper point => cases hplain
    | program point => cases point <;> first | exact ⟨rfl, rfl⟩ | cases hplain
    | channel point => cases point <;> first | exact ⟨rfl, rfl⟩ | cases hplain
    | connection point => cases point <;> first | exact ⟨rfl, rfl⟩ | cases hplain
    | session point => cases point <;> first | exact ⟨rfl, rfl⟩ | cases hplain
  · unfold Point.closes? at hcloses
    split at hcloses <;> first | exact ⟨rfl, rfl⟩ | cases hcloses

/-- Points that take whatever comes may stand above one that does. -/
theorem fits_of_roles {front : List Point}
    (h : ∀ point ∈ front, point.expects = none ∧ point.reports = none) :
    Fits none front ∧ lead none front = none := by
  induction front with
  | nil => exact ⟨trivial, rfl⟩
  | cons point rest ih =>
    obtain ⟨hfits, hlead⟩ := ih fun other hother => h other (List.mem_cons_of_mem _ hother)
    obtain ⟨hexpects, hreports⟩ := h point List.mem_cons_self
    exact ⟨⟨hreports.trans hlead.symm, hfits⟩, hexpects⟩

theorem fits_of_allows {v : View} {front : List Point} (h : ∀ point ∈ front, v.Allows point) :
    Fits none front ∧ lead none front = none :=
  fits_of_roles fun point hpoint => roles_of_allows (h point hpoint)

/-! ## Points that are counted -/

/-- The points at which a task has its turn. -/
def Point.holds : Point → Bool
  | .keeper (.admitted _ none) | .keeper (.admittedToStop none) | .keeper .cleared
  | .keeper (.vacated _) | .keeper (.connected _) | .keeper (.failed _) | .keeper .released => true
  | _ => false

/-- The points at which a task waits for the start of a connection. -/
def Point.isConnected : Point → Bool
  | .keeper (.connected _) => true
  | _ => false

/-- The points at which a connection starts. -/
def Point.isStart : Point → Bool
  | .connection (.opened _ _) | .connection (.greeted _ _ _) | .connection (.refused _) => true
  | _ => false

theorem holds_of_isConnected {point : Point} (h : point.isConnected) : point.holds := by
  unfold Point.isConnected at h
  split at h
  · rfl
  · cases h

theorem reports_of_isStart {point : Point} (h : point.isStart) :
    point.reports = some .readiness := by
  unfold Point.isStart at h
  split at h <;> first | rfl | cases h

theorem isConnected_of_expects {point : Point} (h : point.expects = some .readiness) :
    point.isConnected := by
  unfold Point.expects at h
  split at h <;> first | rfl | cases h | skip
  all_goals
    rename_i ticket
    cases ticket <;> cases h

theorem not_isStart_of_expects {point : Point} (h : point.expects = some .readiness) :
    point.isStart = false := by
  have hconnected := isConnected_of_expects h
  unfold Point.isConnected at hconnected
  split at hconnected
  · rfl
  · cases hconnected

/-- Above every start of a connection there is a point that waits for it. -/
theorem countP_isStart_le {stack : List Point} (h : Fits none stack) :
    stack.countP Point.isStart + (if lead none stack = some .readiness then 1 else 0) ≤
      stack.countP Point.isConnected := by
  induction stack with
  | nil => simp [lead]
  | cons point rest ih =>
    obtain ⟨hreports, hrest⟩ := h
    have hle := ih hrest
    rw [List.countP_cons, List.countP_cons]
    by_cases hexpects : point.expects = some .readiness
    · have hstart := not_isStart_of_expects hexpects
      have hconnected := isConnected_of_expects hexpects
      simp only [lead, hexpects, hstart, hconnected, if_true]
      simp only [Bool.false_eq_true, if_false]
      omega
    · by_cases hstart : point.isStart
      · have hlead : lead none rest = some .readiness := by
          rw [← hreports, reports_of_isStart hstart]
        simp only [lead, hexpects, hstart, if_true, if_false]
        simp only [hlead, if_true] at hle
        omega
      · simp only [lead, hexpects, hstart, Bool.false_eq_true, if_false]
        omega

/-- Below a start of a connection the points that wait for one outnumber the other starts. -/
theorem countP_isStart_lt {point : Point} {rest : List Point} (h : Fits none (point :: rest)) :
    rest.countP Point.isStart + point.isStart.toNat ≤ rest.countP Point.isConnected := by
  have hle := countP_isStart_le h.2
  rw [← h.1] at hle
  cases hstart : point.isStart with
  | false =>
    simp only [Bool.toNat_false]
    omega
  | true =>
    rw [reports_of_isStart hstart, if_pos rfl] at hle
    exact hle

/-- Points that need no care are not counted. -/
theorem not_counted_of_allows {v : View} {point : Point} (h : v.Allows point) :
    point.holds = false ∧ point.isStart = false ∧ point.ticket? = none := by
  rcases h with hplain | ⟨number, hcloses, -⟩
  · cases point with
    | keeper point => cases hplain
    | connection point => cases point <;> first | exact ⟨rfl, rfl, rfl⟩ | cases hplain
    | _ => exact ⟨rfl, rfl, rfl⟩
  · unfold Point.closes? at hcloses
    split at hcloses <;> first | exact ⟨rfl, rfl, rfl⟩ | cases hcloses

end BasiliskServer.World
