import Thought2Build.Library.Paging
import Mathlib.Data.String.Basic
import Thought2Build.Billing.AccountCore

/-!
Lane 2 of `billing_reconcile`: bounded re-reads of one provider's live packs, paged by
`provider_order_id` behind a cursor that is persisted between runs.
-/

namespace Thought2Build.Billing

open Paging

/-- How `_reconcile_lane2` fares with one candidate. `raised` stands for any other exception of
the re-read or of the reversal it leads to: `billing_reconcile` then rolls the run back. -/
inductive Reread where
  | answered | rateLimited | providerError | raised
  deriving DecidableEq

def reconcileLivePackStatuses : List PackStatus :=
  [.active, .consumed, .expired, .refunded, .disputed]

/-- The database's order of text; `key ""` is least. -/
structure Collation (ι : Type) [LinearOrder ι] where
  key : String → ι
  injective : Function.Injective key
  least : ∀ text, key "" ≤ key text

/-- What stays fixed while lane 2 runs again and again: the packs, the lookback limit and the cap.
`unique` is the index on (provider, provider_order_id). -/
structure Lane2 (ι : Type) [LinearOrder ι] where
  collation : Collation ι
  provider : Provider
  packs : List BillingCreditPack
  since : Int
  maxCalls : Nat
  unique : ((packs.filter (·.provider = provider)).filterMap (·.providerOrderId)).Nodup
  named : ∀ pack ∈ packs, pack.providerOrderId ≠ some ""
  positive : 0 < maxCalls

structure Lane2Scan where
  newLast : String
  reread : List String
  stopped : Option Reread

def lane2Scan (reread : String → Reread) : String → List String → Lane2Scan
  | newLast, [] => ⟨newLast, [], none⟩
  | newLast, orderId :: rest =>
      match reread orderId with
      | .answered =>
          let scan := lane2Scan reread orderId rest
          { scan with reread := orderId :: scan.reread }
      | failure => ⟨newLast, [], some failure⟩

structure Lane2Result where
  state : Option String
  reread : List String

namespace Lane2

variable {ι : Type} [LinearOrder ι]

def live (lane : Lane2 ι) (pack : BillingCreditPack) : Bool :=
  pack.provider = lane.provider && pack.status ∈ reconcileLivePackStatuses &&
    decide (lane.since ≤ pack.purchasedAt)

def liveOrders (lane : Lane2 ι) : List String :=
  (lane.packs.filter lane.live).filterMap (·.providerOrderId)

def ordered (lane : Lane2 ι) : List String :=
  lane.liveOrders.insertionSort fun first second =>
    lane.collation.key first ≤ lane.collation.key second

def behind (lane : Lane2 ι) (lastId : String) : List String :=
  past lane.collation.key (lane.collation.key lastId) lane.ordered

/-- `_reconcile_lane2`; `state` is the cursor's `lane2_last_order_id`. -/
def reconcileLane2 (lane : Lane2 ι) (reread : String → Reread) (state : Option String) :
    Lane2Result :=
  let lastId := state.getD ""
  let candidates := (lane.behind lastId).take lane.maxCalls
  let scan := lane2Scan reread lastId candidates
  match scan.stopped with
  | some .raised => ⟨state, scan.reread⟩
  | some _ => ⟨some scan.newLast, scan.reread⟩
  | none => ⟨some (if candidates.length < lane.maxCalls then "" else scan.newLast), scan.reread⟩

/-- The cursor before run number `run`. -/
def cursor (lane : Lane2 ι) (reread : String → Reread) (state : Option String) :
    Nat → Option String
  | 0 => state
  | run + 1 => (lane.reconcileLane2 reread (lane.cursor reread state run)).state

/-- The orders that run number `run` re-reads. -/
def rereadBy (lane : Lane2 ι) (reread : String → Reread) (state : Option String) (run : Nat) :
    List String :=
  (lane.reconcileLane2 reread (lane.cursor reread state run)).reread

end Lane2

section Scan

variable {reread : String → Reread} {page front back : List String} {failing : String}

theorem lane2Scan_answered (answered : ∀ order ∈ page, reread order = .answered)
    (newLast : String) : lane2Scan reread newLast page = ⟨page.getLastD newLast, page, none⟩ := by
  induction page generalizing newLast with
  | nil => rfl
  | cons order rest ih =>
      rw [lane2Scan, answered order List.mem_cons_self,
        ih (fun later member => answered later (List.mem_cons_of_mem _ member)) order,
        List.getLastD_cons]

theorem lane2Scan_failing (answered : ∀ order ∈ front, reread order = .answered)
    (failed : reread failing ≠ .answered) (newLast : String) :
    lane2Scan reread newLast (front ++ failing :: back) =
      ⟨front.getLastD newLast, front, some (reread failing)⟩ := by
  induction front generalizing newLast with
  | nil =>
      rw [List.nil_append, lane2Scan]
      split
      · contradiction
      · rfl
  | cons order rest ih =>
      rw [List.cons_append, lane2Scan, answered order List.mem_cons_self,
        ih (fun later member => answered later (List.mem_cons_of_mem _ member)) order,
        List.getLastD_cons]

end Scan

namespace Lane2

variable {ι : Type} [LinearOrder ι] {lane : Lane2 ι} {reread : String → Reread}
  {state : Option String} {front back unread : List String} {failing order : String} {run : Nat}

theorem ordered_perm (lane : Lane2 ι) : lane.ordered.Perm lane.liveOrders :=
  List.perm_insertionSort _ _

theorem mem_ordered : order ∈ lane.ordered ↔ order ∈ lane.liveOrders :=
  lane.ordered_perm.mem_iff

theorem liveOrders_nodup (lane : Lane2 ι) : lane.liveOrders.Nodup := by
  apply List.Nodup.sublist _ lane.unique
  apply List.Sublist.filterMap
  apply List.monotone_filter_right
  intro pack live
  simp only [Lane2.live, Bool.and_eq_true, decide_eq_true_eq] at live
  exact decide_eq_true live.1.1

theorem ordered_nodup (lane : Lane2 ι) : lane.ordered.Nodup :=
  lane.ordered_perm.nodup_iff.mpr lane.liveOrders_nodup

theorem ordered_ascending (lane : Lane2 ι) :
    lane.ordered.Pairwise fun first second =>
      lane.collation.key first < lane.collation.key second := by
  have total : Std.Total fun first second : String =>
      lane.collation.key first ≤ lane.collation.key second := ⟨fun _ _ => le_total _ _⟩
  have transitive : IsTrans String fun first second =>
      lane.collation.key first ≤ lane.collation.key second := ⟨fun _ _ _ => le_trans⟩
  have sorted : lane.ordered.Pairwise fun first second =>
      lane.collation.key first ≤ lane.collation.key second := List.pairwise_insertionSort _ _
  apply (sorted.and lane.ordered_nodup).imp
  rintro first second ⟨below, distinct⟩
  exact lt_of_le_of_ne below fun same => distinct (lane.collation.injective same)

theorem ne_empty (member : order ∈ lane.liveOrders) : order ≠ "" := by
  obtain ⟨pack, found, named⟩ := List.mem_filterMap.mp member
  rintro rfl
  exact lane.named pack (List.mem_of_mem_filter found) named

theorem empty_lt (member : order ∈ lane.liveOrders) :
    lane.collation.key "" < lane.collation.key order :=
  lt_of_le_of_ne (lane.collation.least order) fun same =>
    ne_empty member (lane.collation.injective same).symm

theorem behind_empty (lane : Lane2 ι) : lane.behind "" = lane.ordered :=
  past_of_forall fun _ member => empty_lt (mem_ordered.mp member)

theorem mem_behind {lastId : String} : order ∈ lane.behind lastId ↔
    order ∈ lane.liveOrders ∧ lane.collation.key lastId < lane.collation.key order := by
  rw [behind, mem_past, mem_ordered]

theorem behind_getLastD {lastId : String} (split : lane.behind lastId = front ++ back) :
    lane.behind (front.getLastD lastId) = back :=
  past_advance lane.ordered_ascending split

theorem reconcileLane2_answered (answered : ∀ order ∈ unread, reread order = .answered)
    (unreadEq : lane.behind (state.getD "") = unread) :
    (lane.reconcileLane2 reread state).reread = unread.take lane.maxCalls ∧
      (lane.reconcileLane2 reread state).state =
        some (if unread.length < lane.maxCalls then ""
          else (unread.take lane.maxCalls).getLastD (state.getD "")) := by
  rw [reconcileLane2, unreadEq,
    lane2Scan_answered fun order member => answered order (List.mem_of_mem_take member)]
  refine ⟨rfl, ?_⟩
  simp only [List.length_take]
  congr 1
  apply if_congr _ rfl rfl
  omega

theorem reconcileLane2_failing (answered : ∀ order ∈ front, reread order = .answered)
    (failed : reread failing = .providerError)
    (unreadEq : lane.behind (state.getD "") = front ++ failing :: back) :
    (lane.reconcileLane2 reread state).reread = front.take lane.maxCalls ∧
      lane.behind ((lane.reconcileLane2 reread state).state.getD "") =
        front.drop lane.maxCalls ++ failing :: back := by
  rw [reconcileLane2, unreadEq]
  by_cases short : front.length < lane.maxCalls
  · have page : (front ++ failing :: back).take lane.maxCalls =
        front ++ failing :: back.take (lane.maxCalls - front.length - 1) := by
      rw [List.take_append, List.take_of_length_le short.le,
        show lane.maxCalls - front.length = lane.maxCalls - front.length - 1 + 1 by omega,
        List.take_succ_cons, Nat.add_sub_cancel]
    rw [page, lane2Scan_failing answered (by rw [failed]; decide), failed]
    refine ⟨(List.take_of_length_le short.le).symm, ?_⟩
    rw [List.drop_of_length_le short.le, List.nil_append]
    exact behind_getLastD unreadEq
  · have full : lane.maxCalls ≤ front.length := Nat.not_lt.mp short
    rw [List.take_append_of_le_length full,
      lane2Scan_answered fun order member => answered order (List.mem_of_mem_take member)]
    refine ⟨rfl, ?_⟩
    simp only [List.length_take, Nat.min_eq_left full, lt_self_iff_false, if_false, Option.getD_some]
    apply behind_getLastD
    rw [unreadEq, ← List.append_assoc, List.take_append_drop]

theorem cursor_add (state : Option String) (first second : Nat) :
    lane.cursor reread state (first + second) =
      lane.cursor reread (lane.cursor reread state first) second := by
  induction second with
  | zero => rfl
  | succ second ih => rw [← Nat.add_assoc, cursor, ih, cursor]

theorem rereadBy_add (state : Option String) (first second : Nat) :
    lane.rereadBy reread state (first + second) =
      lane.rereadBy reread (lane.cursor reread state first) second := by
  rw [rereadBy, cursor_add, rereadBy]

section Answered

variable (answered : ∀ order ∈ lane.behind (state.getD ""), reread order = .answered)

include answered

theorem behind_cursor (within : run ≤ (lane.behind (state.getD "")).length / lane.maxCalls) :
    lane.behind ((lane.cursor reread state run).getD "") =
      (lane.behind (state.getD "")).drop (run * lane.maxCalls) := by
  induction run with
  | zero => rw [cursor, Nat.zero_mul, List.drop_zero]
  | succ run ih =>
      have unread := ih (by omega)
      have full := (Nat.le_div_iff_mul_le lane.positive).mp within
      rw [Nat.succ_mul] at full ⊢
      rw [cursor, (reconcileLane2_answered (fun order member => answered order
        (List.mem_of_mem_drop member)) unread).2, if_neg (by simp; omega),
        Option.getD_some, ← List.drop_drop]
      apply behind_getLastD
      rw [unread, List.take_append_drop]

theorem rereadBy_answered (within : run ≤ (lane.behind (state.getD "")).length / lane.maxCalls) :
    lane.rereadBy reread state run =
      ((lane.behind (state.getD "")).drop (run * lane.maxCalls)).take lane.maxCalls :=
  (reconcileLane2_answered (fun order member => answered order (List.mem_of_mem_drop member))
    (behind_cursor answered within)).1

theorem cursor_wraps :
    lane.cursor reread state ((lane.behind (state.getD "")).length / lane.maxCalls + 1) =
      some "" := by
  have short := length_lt_pages lane.positive (lane.behind (state.getD ""))
  have positive := lane.positive
  rw [Nat.succ_mul] at short
  rw [cursor, (reconcileLane2_answered (fun order member => answered order
    (List.mem_of_mem_drop member)) (behind_cursor answered le_rfl)).2,
    if_pos (by rw [List.length_drop]; omega)]

theorem cursor_unwrapped (started : 0 < run)
    (within : run ≤ (lane.behind (state.getD "")).length / lane.maxCalls) :
    lane.cursor reread state run ≠ some "" := by
  intro wrapped
  have full := (Nat.le_div_iff_mul_le lane.positive).mp within
  have unread := behind_cursor answered within
  rw [wrapped, Option.getD_some, behind_empty] at unread
  have fewer : (lane.behind (state.getD "")).length ≤ lane.ordered.length :=
    List.length_filter_le _ _
  have advanced : 0 < run * lane.maxCalls := Nat.mul_pos started lane.positive
  have := congrArg List.length unread
  rw [List.length_drop] at this
  omega

theorem sweep_answered :
    (List.range ((lane.behind (state.getD "")).length / lane.maxCalls + 1)).flatMap
      (lane.rereadBy reread state) = lane.behind (state.getD "") := by
  conv_rhs => rw [← take_pages lane.positive (lane.behind (state.getD "")), ← pages_flatten]
  apply List.flatMap_congr
  intro run member
  exact rereadBy_answered answered (Nat.lt_succ_iff.mp (List.mem_range.mp member))

end Answered

section Failing

variable (answered : ∀ order ∈ front, reread order = .answered)
  (failed : reread failing = .providerError)
  (split : lane.behind (state.getD "") = front ++ failing :: back)

include answered failed split

theorem behind_cursor_failing (run : Nat) :
    lane.behind ((lane.cursor reread state run).getD "") =
      front.drop (run * lane.maxCalls) ++ failing :: back := by
  induction run with
  | zero => rw [cursor, Nat.zero_mul, List.drop_zero, split]
  | succ run ih =>
      rw [cursor, (reconcileLane2_failing (fun order member => answered order
        (List.mem_of_mem_drop member)) failed ih).2, Nat.succ_mul, List.drop_drop]

theorem rereadBy_failing (run : Nat) :
    lane.rereadBy reread state run = (front.drop (run * lane.maxCalls)).take lane.maxCalls :=
  (reconcileLane2_failing (fun order member => answered order (List.mem_of_mem_drop member))
    failed (behind_cursor_failing answered failed split run)).1

theorem reread_within_iff_front {runs : Nat} (enough : front.length ≤ runs * lane.maxCalls) :
    (∃ run < runs, order ∈ lane.rereadBy reread state run) ↔ order ∈ front := by
  rw [← List.take_of_length_le enough, ← pages_flatten, List.mem_flatMap]
  simp only [List.mem_range, rereadBy_failing answered failed split]

end Failing

/-- The orders that the sweep comes to before the failing one: upwards from the cursor, and
from the start again when the failing order is not above the cursor. -/
def Ahead (lane : Lane2 ι) (lastId failing order : String) : Prop :=
  if lane.collation.key lastId < lane.collation.key failing then
    lane.collation.key lastId < lane.collation.key order ∧
      lane.collation.key order < lane.collation.key failing
  else
    lane.collation.key order < lane.collation.key failing ∨
      lane.collation.key lastId < lane.collation.key order

instance (lane : Lane2 ι) (lastId failing order : String) :
    Decidable (lane.Ahead lastId failing order) :=
  inferInstanceAs (Decidable (ite _ _ _))

def failingOnly (failing : String) (order : String) : Reread :=
  if order = failing then .providerError else .answered

theorem failingOnly_ne (distinct : order ≠ failing) : failingOnly failing order = .answered :=
  if_neg distinct

theorem behind_split {lastId : String} (live : failing ∈ lane.liveOrders)
    (above : lane.collation.key lastId < lane.collation.key failing) :
    ∃ front back, lane.behind lastId = front ++ failing :: back ∧
      ∀ order, order ∈ front ↔ order ∈ lane.liveOrders ∧
        lane.collation.key lastId < lane.collation.key order ∧
        lane.collation.key order < lane.collation.key failing := by
  obtain ⟨front, back, split⟩ := List.append_of_mem (mem_behind.mpr ⟨live, above⟩)
  refine ⟨front, back, split, fun order => ⟨fun member => ?_, fun ⟨found, lower, upper⟩ => ?_⟩⟩
  all_goals
    have sorted := lane.ordered_ascending.filter fun item =>
      decide (lane.collation.key lastId < lane.collation.key item)
    rw [show lane.ordered.filter _ = _ from split] at sorted
    obtain ⟨-, tail, between⟩ := List.pairwise_append.mp sorted
  · have inside := mem_behind.mp (split ▸ List.mem_append_left _ member)
    exact ⟨inside.1, inside.2, between order member failing List.mem_cons_self⟩
  · have inside : order ∈ front ++ failing :: back := split ▸ mem_behind.mpr ⟨found, lower⟩
    rcases List.mem_append.mp inside with before | after
    · exact before
    · rcases List.mem_cons.mp after with rfl | later
      · exact absurd upper (lt_irrefl _)
      · exact absurd ((List.pairwise_cons.mp tail).1 order later) upper.asymm

theorem front_fits {lastId : String} (split : lane.ordered = front ++ failing :: back)
    (below : lane.collation.key failing ≤ lane.collation.key lastId) :
    front.length ≤ (lane.liveOrders.length / lane.maxCalls -
      (lane.behind lastId).length / lane.maxCalls + 1) * lane.maxCalls := by
  have sorted := lane.ordered_ascending
  rw [split] at sorted
  have rest : lane.behind lastId = past lane.collation.key (lane.collation.key lastId) back := by
    rw [behind, ← past_past below, split, past_split sorted]
  have fewer : (lane.behind lastId).length ≤ back.length := by
    rw [rest]
    exact List.length_filter_le _ _
  apply two_stretches lane.positive
  have total := lane.ordered_perm.length_eq
  rw [split, List.length_append, List.length_cons] at total
  omega

theorem answered_front (inFront : ∀ order, order ∈ front → lane.collation.key order <
    lane.collation.key failing) : ∀ order ∈ front, failingOnly failing order = .answered := by
  intro order member
  apply failingOnly_ne
  rintro rfl
  exact lt_irrefl _ (inFront _ member)

theorem length_behind_le (lane : Lane2 ι) (lastId : String) :
    (lane.behind lastId).length ≤ lane.liveOrders.length := by
  rw [← lane.ordered_perm.length_eq]
  exact List.length_filter_le _ _

theorem reread_above (live : failing ∈ lane.liveOrders)
    (above : lane.collation.key (state.getD "") < lane.collation.key failing) :
    (∃ run < lane.liveOrders.length / lane.maxCalls + 2,
      order ∈ lane.rereadBy (failingOnly failing) state run) ↔
      order ∈ lane.liveOrders ∧ lane.collation.key (state.getD "") < lane.collation.key order ∧
        lane.collation.key order < lane.collation.key failing := by
  obtain ⟨front, back, split, inFront⟩ := behind_split live above
  have answered := answered_front fun order member => ((inFront order).mp member).2.2
  have shorter := lane.length_behind_le (state.getD "")
  rw [split, List.length_append] at shorter
  have pages := length_lt_pages lane.positive lane.liveOrders
  rw [reread_within_iff_front answered (if_pos rfl) split, inFront]
  rw [Nat.succ_mul]
  omega

theorem reread_below (live : failing ∈ lane.liveOrders)
    (below : lane.collation.key failing ≤ lane.collation.key (state.getD "")) :
    (∃ run < lane.liveOrders.length / lane.maxCalls + 2,
      order ∈ lane.rereadBy (failingOnly failing) state run) ↔
      order ∈ lane.liveOrders ∧ (lane.collation.key order < lane.collation.key failing ∨
        lane.collation.key (state.getD "") < lane.collation.key order) := by
  obtain ⟨front, back, split, inFront⟩ := behind_split live (empty_lt live)
  have answered := answered_front fun order member => ((inFront order).mp member).2.2
  have remaining : ∀ order ∈ lane.behind (state.getD ""), failingOnly failing order = .answered := by
    intro order member
    apply failingOnly_ne
    rintro rfl
    exact (mem_behind.mp member).2.not_ge below
  have wraps := cursor_wraps remaining
  have rest : (∃ run < (lane.behind (state.getD "")).length / lane.maxCalls + 1,
      order ∈ lane.rereadBy (failingOnly failing) state run) ↔
      order ∈ lane.behind (state.getD "") := by
    conv_rhs => rw [← sweep_answered remaining, List.mem_flatMap]
    simp only [List.mem_range]
  have again := @reread_within_iff_front _ _ lane (failingOnly failing) (some "") front back
    failing order answered (if_pos rfl) split _ (front_fits (lane.behind_empty ▸ split) below)
  have fewer := Nat.div_le_div_right (c := lane.maxCalls) (lane.length_behind_le (state.getD ""))
  constructor
  · rintro ⟨run, bound, member⟩
    by_cases early : run < (lane.behind (state.getD "")).length / lane.maxCalls + 1
    · obtain ⟨found, upper⟩ := mem_behind.mp (rest.mp ⟨run, early, member⟩)
      exact ⟨found, .inr upper⟩
    · obtain ⟨late, rfl⟩ := Nat.exists_eq_add_of_le (Nat.not_lt.mp early)
      rw [rereadBy_add, wraps] at member
      obtain ⟨found, -, lower⟩ := (inFront order).mp (again.mp ⟨late, by omega, member⟩)
      exact ⟨found, .inl lower⟩
  · rintro ⟨found, lower | upper⟩
    · obtain ⟨late, bound, member⟩ := again.mpr ((inFront order).mpr ⟨found, empty_lt found, lower⟩)
      rw [← wraps, ← rereadBy_add] at member
      exact ⟨_, by omega, member⟩
    · obtain ⟨run, early, member⟩ := rest.mpr (mem_behind.mpr ⟨found, upper⟩)
      exact ⟨run, by omega, member⟩

/-- With one failing order, every other order is re-read within `packs / cap + 2` runs just when
the sweep comes to all of them before the failing one. Without errors the runs up to the reset
of the cursor re-read what lies behind it, and each sweep from the reset every order once. -/
theorem lane2_reread_iff_ahead (lane : Lane2 ι) (state : Option String) (failing : String)
    (live : failing ∈ lane.liveOrders) :
    ((∀ order ∈ lane.liveOrders, order ≠ failing →
        ∃ run < lane.liveOrders.length / lane.maxCalls + 2,
          order ∈ lane.rereadBy (failingOnly failing) state run) ↔
      ∀ order ∈ lane.liveOrders, order ≠ failing → lane.Ahead (state.getD "") failing order) ∧
    (∀ reread : String → Reread, (∀ order, reread order = .answered) → ∀ start : Option String,
      (List.range ((lane.behind (start.getD "")).length / lane.maxCalls + 1)).flatMap
          (lane.rereadBy reread start) = lane.behind (start.getD "") ∧
        lane.cursor reread start ((lane.behind (start.getD "")).length / lane.maxCalls + 1) =
          some "" ∧
        ∀ run, 0 < run → run ≤ (lane.behind (start.getD "")).length / lane.maxCalls →
          lane.cursor reread start run ≠ some "") ∧
    (lane.behind "").Perm lane.liveOrders ∧ lane.liveOrders.Nodup := by
  refine ⟨?_, ?_, ?_, lane.liveOrders_nodup⟩
  · apply forall_congr'
    intro order
    apply forall_congr'
    intro found
    apply forall_congr'
    intro distinct
    rw [Ahead]
    split
    · rename_i above
      rw [reread_above live above]
      simp only [found, true_and]
    · rename_i below
      rw [reread_below live (not_lt.mp below)]
      simp only [found, true_and]
  · intro reread answered start
    have behind := fun order (_ : order ∈ lane.behind (start.getD "")) => answered order
    refine ⟨sweep_answered behind, cursor_wraps behind, ?_⟩
    intro run started within
    exact cursor_unwrapped behind started within
  · rw [behind_empty]
    exact lane.ordered_perm

def threeOrders : Lane2 String where
  collation := ⟨fun text => text, Function.injective_id, fun text =>
    String.le_iff_toList_le.mpr (not_lt.mp (List.not_lt_nil text.toList))⟩
  provider := .razorpay
  packs := ["pay_1", "pay_2", "pay_3"].map fun order =>
    { provider := .razorpay, providerOrderId := some order }
  since := 0
  maxCalls := 1
  unique := by decide
  named := by decide
  positive := by decide

theorem lane2_reread_iff_ahead_threeOrders :
    threeOrders.Ahead "" "pay_3" "pay_2" ∧
      ∃ run < threeOrders.liveOrders.length / threeOrders.maxCalls + 2,
        "pay_2" ∈ threeOrders.rereadBy (failingOnly "pay_3") none run := by
  have ahead : ∀ order ∈ threeOrders.liveOrders, order ≠ "pay_3" →
      threeOrders.Ahead "" "pay_3" order := by decide
  exact ⟨ahead "pay_2" (by decide) (by decide),
    (lane2_reread_iff_ahead threeOrders none "pay_3" (by decide)).1.mpr ahead "pay_2" (by decide)
      (by decide)⟩

theorem failing_order_starves_later :
    ¬∀ order ∈ threeOrders.liveOrders, order ≠ "pay_2" →
      ∃ run < threeOrders.liveOrders.length / threeOrders.maxCalls + 2,
        order ∈ threeOrders.rereadBy (failingOnly "pay_2") none run := by
  decide

end Lane2

end Thought2Build.Billing
