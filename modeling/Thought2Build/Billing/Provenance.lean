import Thought2Build.Billing.SettlementCore

/-!
Where the value of a pack went. Each pack counter has a counterpart in the debt and
allocation tables; the drift of a counter is its difference from that counterpart.
-/

namespace Thought2Build.Billing

open Rows

def BillingCreditPack.excess (pack : BillingCreditPack) : Int :=
  pack.creditsRevoked - pack.gap

def BillingCreditDebt.owedTo (debt : BillingCreditDebt) (sourceId : Nat) : Int :=
  if debt.sourcePackId = sourceId then debt.outstanding else 0

namespace CreditPackAllocation

def recoveringFor (allocation : CreditPackAllocation) (sourceId : Nat) : Int :=
  if allocation.recoveryForPackId = some sourceId then allocation.unreturned else 0

def recoveredFrom (allocation : CreditPackAllocation) (packId : Nat) : Int :=
  if allocation.recoveryForPackId ≠ none ∧ allocation.packId = packId then allocation.unreturned
  else 0

def consumedFrom (allocation : CreditPackAllocation) (packId : Nat) : Int :=
  if allocation.recoveryForPackId = none ∧ allocation.packId = packId then allocation.unreturned
  else 0

def chargedTo (allocation : CreditPackAllocation) (ledgerEntryId : Nat) : Int :=
  if allocation.ledgerEntryId = ledgerEntryId ∧ allocation.recoveryForPackId = none then
    allocation.amount
  else 0

end CreditPackAllocation

namespace Account

def owedTo (account : Account) (sourceId : Nat) : Int :=
  sumOf (·.owedTo sourceId) account.debts

def recoveringFor (account : Account) (sourceId : Nat) : Int :=
  sumOf (·.recoveringFor sourceId) account.allocations

def recoveredFrom (account : Account) (packId : Nat) : Int :=
  sumOf (·.recoveredFrom packId) account.allocations

def consumedFrom (account : Account) (packId : Nat) : Int :=
  sumOf (·.consumedFrom packId) account.allocations

def chargedTo (account : Account) (ledgerEntryId : Nat) : Int :=
  sumOf (·.chargedTo ledgerEntryId) account.allocations

def totalRemaining (account : Account) : Int :=
  sumOf (·.creditsRemaining) account.packs

def totalOutstanding (account : Account) : Int :=
  sumOf (·.outstanding) account.debts

def excessDrift (account : Account) (id : Nat) : Int :=
  (account.pack id).excess - (account.owedTo id + account.recoveringFor id)

def consumedDrift (account : Account) (id : Nat) : Int :=
  (account.pack id).creditsConsumed - account.consumedFrom id

def recoveredDrift (account : Account) (id : Nat) : Int :=
  (account.pack id).creditsDebtRecovered - account.recoveredFrom id

variable {account : Account} {id : Nat}

theorem pack_setPack (pack : BillingCreditPack) (other : Nat) :
    (account.setPack id pack).pack other =
      if other = id ∧ id < account.packs.length then pack else account.pack other :=
  getD_set

theorem pack_setPack_self (bound : id < account.packs.length) (pack : BillingCreditPack) :
    (account.setPack id pack).pack id = pack := by
  simp [pack_setPack, bound]

theorem pack_setPack_ne {other : Nat} (different : other ≠ id) (pack : BillingCreditPack) :
    (account.setPack id pack).pack other = account.pack other := by
  simp [pack_setPack, different]

theorem setPack_cases {motive : BillingCreditPack → Prop} {pack : BillingCreditPack}
    {other : Nat} (here : other = id → motive pack) (elsewhere : motive (account.pack other)) :
    motive ((account.setPack id pack).pack other) := by
  rw [pack_setPack]
  split
  · rename_i same
    exact here same.1
  · exact elsewhere

theorem column_setPack {β : Type} (column : BillingCreditPack → β) {pack : BillingCreditPack}
    (same : column pack = column (account.pack id)) (other : Nat) :
    column ((account.setPack id pack).pack other) = column (account.pack other) :=
  setPack_cases (motive := fun after => column after = column (account.pack other))
    (by rintro rfl; exact same) rfl

theorem debt_setDebt (debt : BillingCreditDebt) (other : Nat) :
    (account.setDebt id debt).debt other =
      if other = id ∧ id < account.debts.length then debt else account.debt other :=
  getD_set

theorem allocation_setAllocation (allocation : CreditPackAllocation) (other : Nat) :
    (account.setAllocation id allocation).allocation other =
      if other = id ∧ id < account.allocations.length then allocation
      else account.allocation other :=
  getD_set

theorem pack_beyond (account : Account) {id : Nat} (beyond : account.packs.length ≤ id) :
    account.pack id = default := by
  rw [Account.pack, List.getD_eq_getElem?_getD, List.getElem?_eq_none beyond, Option.getD_none]

theorem mem_packs {pack : BillingCreditPack} :
    pack ∈ account.packs ↔ ∃ id < account.packs.length, account.pack id = pack :=
  mem_iff_getD

theorem mem_debts {debt : BillingCreditDebt} :
    debt ∈ account.debts ↔ ∃ id < account.debts.length, account.debt id = debt :=
  mem_iff_getD

theorem mem_allocations {allocation : CreditPackAllocation} :
    allocation ∈ account.allocations ↔
      ∃ id < account.allocations.length, account.allocation id = allocation :=
  mem_iff_getD

@[simp] theorem packs_length_setPack (pack : BillingCreditPack) :
    (account.setPack id pack).packs.length = account.packs.length :=
  List.length_set

@[simp] theorem debts_length_setDebt (debt : BillingCreditDebt) :
    (account.setDebt id debt).debts.length = account.debts.length :=
  List.length_set

@[simp] theorem allocations_length_setAllocation (allocation : CreditPackAllocation) :
    (account.setAllocation id allocation).allocations.length = account.allocations.length :=
  List.length_set

theorem sumOf_setPack (column : BillingCreditPack → Int) (bound : id < account.packs.length)
    (pack : BillingCreditPack) :
    sumOf column (account.setPack id pack).packs =
      sumOf column account.packs - column (account.pack id) + column pack :=
  sumOf_set (getElem?_of_lt bound default) pack

theorem sumOf_setDebt (column : BillingCreditDebt → Int) (bound : id < account.debts.length)
    (debt : BillingCreditDebt) :
    sumOf column (account.setDebt id debt).debts =
      sumOf column account.debts - column (account.debt id) + column debt :=
  sumOf_set (getElem?_of_lt bound default) debt

theorem sumOf_setAllocation (column : CreditPackAllocation → Int)
    (bound : id < account.allocations.length) (allocation : CreditPackAllocation) :
    sumOf column (account.setAllocation id allocation).allocations =
      sumOf column account.allocations - column (account.allocation id) + column allocation :=
  sumOf_set (getElem?_of_lt bound default) allocation

end Account

def single (id : Nat) (amount : Int) : Nat → Int := fun other => if other = id then amount else 0

theorem single_zero (id : Nat) : single id 0 = fun _ => 0 := by
  funext other
  simp [single]

structure Moved (before after : Account) (remaining : Int) (excess consumed recovered : Nat → Int) :
    Prop where
  remaining : after.totalRemaining = before.totalRemaining + remaining
  excess : ∀ id, after.excessDrift id = before.excessDrift id + excess id
  consumed : ∀ id, after.consumedDrift id = before.consumedDrift id + consumed id
  recovered : ∀ id, after.recoveredDrift id = before.recoveredDrift id + recovered id

namespace Moved

variable {first second third : Account} {remaining remaining' : Int}
  {excess excess' consumed consumed' recovered recovered' : Nat → Int}

theorem refl (account : Account) : Moved account account 0 (fun _ => 0) (fun _ => 0) fun _ => 0 := by
  constructor <;> intros <;> omega

theorem trans (left : Moved first second remaining excess consumed recovered)
    (right : Moved second third remaining' excess' consumed' recovered') :
    Moved first third (remaining + remaining') (fun id => excess id + excess' id)
      (fun id => consumed id + consumed' id) fun id => recovered id + recovered' id where
  remaining := by rw [right.remaining, left.remaining]; omega
  excess id := by rw [right.excess, left.excess]; omega
  consumed id := by rw [right.consumed, left.consumed]; omega
  recovered id := by rw [right.recovered, left.recovered]; omega

theorem congr (step : Moved first second remaining excess consumed recovered)
    (sameRemaining : remaining = remaining') (sameExcess : ∀ id, excess id = excess' id)
    (sameConsumed : ∀ id, consumed id = consumed' id)
    (sameRecovered : ∀ id, recovered id = recovered' id) :
    Moved first second remaining' excess' consumed' recovered' := by
  obtain rfl := sameRemaining
  obtain rfl := funext sameExcess
  obtain rfl := funext sameConsumed
  obtain rfl := funext sameRecovered
  exact step

theorem book (account : Account) (creditBalance : Int) (ledger : List CreditLedger) :
    Moved account { account with creditBalance, ledger } 0 (fun _ => 0) (fun _ => 0) fun _ => 0 :=
  ⟨(refl account).remaining, (refl account).excess, (refl account).consumed,
    (refl account).recovered⟩

variable {account : Account} {id : Nat}

theorem setPack (bound : id < account.packs.length) (pack : BillingCreditPack) :
    Moved account (account.setPack id pack)
      (pack.creditsRemaining - (account.pack id).creditsRemaining)
      (single id (pack.excess - (account.pack id).excess))
      (single id (pack.creditsConsumed - (account.pack id).creditsConsumed))
      (single id (pack.creditsDebtRecovered - (account.pack id).creditsDebtRecovered)) where
  remaining := by
    rw [Account.totalRemaining, Account.sumOf_setPack _ bound, Account.totalRemaining]
    omega
  excess other := by
    change _ - (account.owedTo other + account.recoveringFor other) = _
    simp only [Account.excessDrift, Account.pack_setPack, single, bound, and_true]
    grind
  consumed other := by
    change _ - account.consumedFrom other = _
    simp only [Account.consumedDrift, Account.pack_setPack, single, bound, and_true]
    grind
  recovered other := by
    change _ - account.recoveredFrom other = _
    simp only [Account.recoveredDrift, Account.pack_setPack, single, bound, and_true]
    grind

theorem setDebt (bound : id < account.debts.length) {debt : BillingCreditDebt}
    (source : debt.sourcePackId = (account.debt id).sourcePackId) :
    Moved account (account.setDebt id debt) 0
      (single debt.sourcePackId ((account.debt id).outstanding - debt.outstanding))
      (fun _ => 0) fun _ => 0 where
  remaining := (Int.add_zero _).symm
  excess other := by
    change (account.pack other).excess - (_ + account.recoveringFor other) = _
    simp only [Account.excessDrift, Account.owedTo, Account.sumOf_setDebt _ bound,
      BillingCreditDebt.owedTo, single, source]
    grind
  consumed _ := (Int.add_zero _).symm
  recovered _ := (Int.add_zero _).symm

theorem addDebt (debt : BillingCreditDebt) :
    Moved account (account.addDebt debt) 0 (single debt.sourcePackId (-debt.outstanding))
      (fun _ => 0) fun _ => 0 where
  remaining := (Int.add_zero _).symm
  excess other := by
    change (account.pack other).excess - (_ + account.recoveringFor other) = _
    simp only [Account.excessDrift, Account.owedTo, Account.addDebt, sumOf_append, sumOf_cons,
      sumOf_nil, BillingCreditDebt.owedTo, single]
    grind
  consumed _ := (Int.add_zero _).symm
  recovered _ := (Int.add_zero _).symm

theorem setAllocation (bound : id < account.allocations.length)
    (allocation : CreditPackAllocation) :
    Moved account (account.setAllocation id allocation) 0
      (fun other => (account.allocation id).recoveringFor other - allocation.recoveringFor other)
      (fun other => (account.allocation id).consumedFrom other - allocation.consumedFrom other)
      fun other => (account.allocation id).recoveredFrom other - allocation.recoveredFrom other where
  remaining := (Int.add_zero _).symm
  excess other := by
    change (account.pack other).excess - (account.owedTo other + _) = _
    simp only [Account.excessDrift, Account.recoveringFor, Account.sumOf_setAllocation _ bound]
    omega
  consumed other := by
    change (account.pack other).creditsConsumed - _ = _
    simp only [Account.consumedDrift, Account.consumedFrom, Account.sumOf_setAllocation _ bound]
    omega
  recovered other := by
    change (account.pack other).creditsDebtRecovered - _ = _
    simp only [Account.recoveredDrift, Account.recoveredFrom, Account.sumOf_setAllocation _ bound]
    omega

theorem addAllocations (rows : List CreditPackAllocation) :
    Moved account { account with allocations := account.allocations ++ rows } 0
      (fun other => -sumOf (·.recoveringFor other) rows)
      (fun other => -sumOf (·.consumedFrom other) rows)
      fun other => -sumOf (·.recoveredFrom other) rows where
  remaining := (Int.add_zero _).symm
  excess other := by
    change (account.pack other).excess - (account.owedTo other + _) = _
    simp only [Account.excessDrift, Account.recoveringFor, sumOf_append]
    omega
  consumed other := by
    change (account.pack other).creditsConsumed - _ = _
    simp only [Account.consumedDrift, Account.consumedFrom, sumOf_append]
    omega
  recovered other := by
    change (account.pack other).creditsDebtRecovered - _ = _
    simp only [Account.recoveredDrift, Account.recoveredFrom, sumOf_append]
    omega

end Moved

structure BillingCreditPack.Sound (pack : BillingCreditPack) : Prop where
  remaining : 0 ≤ pack.creditsRemaining
  consumed : 0 ≤ pack.creditsConsumed
  expired : 0 ≤ pack.creditsExpired
  recovered : 0 ≤ pack.creditsDebtRecovered
  gap : 0 ≤ pack.gap
  gapRevoked : pack.gap ≤ pack.creditsRevoked
  value : pack.creditsRemaining + pack.creditsExpired + pack.creditsRevoked ≤ pack.creditsPurchased
  clean : 0 < pack.creditsRemaining → pack.creditsRevoked = pack.gap
  spendable : pack.status = .active →
    pack.creditsExpired + pack.creditsRevoked < pack.creditsPurchased
  settled : pack.refundedItemAmountCentsProcessed = pack.paidItemAmountCents →
    pack.creditsRevoked = pack.creditsPurchased - pack.creditsExpired
  price : pack.paidItemAmountCents = pack.priceCents
  live : 0 < pack.creditsRemaining → pack.status = .active ∨ pack.status = .expired

theorem BillingCreditPack.sound_default : (default : BillingCreditPack).Sound := by
  constructor <;> decide

structure BillingCreditPack.SameTerms (before after : BillingCreditPack) : Prop where
  provider : after.provider = before.provider
  checkoutId : after.providerCheckoutId = before.providerCheckoutId
  orderId : after.providerOrderId = before.providerOrderId
  purchased : after.creditsPurchased = before.creditsPurchased
  priceCents : after.priceCents = before.priceCents
  currency : after.currency = before.currency
  paidItem : after.paidItemAmountCents = before.paidItemAmountCents
  orderTotal : after.providerOrderTotalCents = before.providerOrderTotalCents
  purchasedAt : after.purchasedAt = before.purchasedAt
  expiresAt : after.expiresAt = before.expiresAt

theorem BillingCreditPack.SameTerms.refl (pack : BillingCreditPack) : pack.SameTerms pack := by
  constructor <;> rfl

theorem BillingCreditPack.SameTerms.trans {first second third : BillingCreditPack}
    (left : first.SameTerms second) (right : second.SameTerms third) : first.SameTerms third := by
  constructor <;> grind [BillingCreditPack.SameTerms]

structure Ages (before after : Account) : Prop where
  length : before.packs.length ≤ after.packs.length
  sameTerms : ∀ id < before.packs.length, (before.pack id).SameTerms (after.pack id)
  expiredMono : ∀ id < before.packs.length,
    (before.pack id).creditsExpired ≤ (after.pack id).creditsExpired

namespace Ages

variable {first second third : Account}

theorem refl (account : Account) : Ages account account :=
  ⟨le_rfl, fun _ _ => .refl _, fun _ _ => le_rfl⟩

theorem trans (left : Ages first second) (right : Ages second third) : Ages first third where
  length := left.length.trans right.length
  sameTerms id bound :=
    (left.sameTerms id bound).trans (right.sameTerms id (bound.trans_le left.length))
  expiredMono id bound :=
    (left.expiredMono id bound).trans (right.expiredMono id (bound.trans_le left.length))

theorem ofPacks (ages : Ages first second) (same : third.packs = second.packs) :
    Ages first third := by
  have pack : ∀ id, third.pack id = second.pack id := fun id => by
    rw [Account.pack, same, Account.pack]
  refine ⟨same ▸ ages.length, fun id bound => ?_, fun id bound => ?_⟩ <;> rw [pack]
  · exact ages.sameTerms id bound
  · exact ages.expiredMono id bound

theorem book (ages : Ages first second) (creditBalance : Int) (ledger : List CreditLedger) :
    Ages first { second with creditBalance, ledger } :=
  ages.ofPacks rfl

theorem setPack {account : Account} {id : Nat} {pack : BillingCreditPack}
    (terms : (account.pack id).SameTerms pack)
    (expired : (account.pack id).creditsExpired ≤ pack.creditsExpired) :
    Ages account (account.setPack id pack) where
  length := (Account.packs_length_setPack pack).ge
  sameTerms other _ := Account.setPack_cases
    (motive := fun after => (account.pack other).SameTerms after)
    (by rintro rfl; exact terms) (.refl _)
  expiredMono other _ := Account.setPack_cases
    (motive := fun after => (account.pack other).creditsExpired ≤ after.creditsExpired)
    (by rintro rfl; exact expired) le_rfl

theorem editPack {account after : Account} {id : Nat} {pack : BillingCreditPack}
    (packs : after.packs = account.packs.set id pack) (terms : (account.pack id).SameTerms pack)
    (expired : (account.pack id).creditsExpired ≤ pack.creditsExpired) : Ages account after :=
  (setPack terms expired).ofPacks packs

end Ages

theorem BillingCreditPack.absorbed_nonneg {pack : BillingCreditPack} {amount : Int}
    (nonneg : 0 ≤ amount) : 0 ≤ pack.absorbed amount := by
  simp only [BillingCreditPack.absorbed]
  omega

theorem BillingCreditPack.absorbed_bounds (pack : BillingCreditPack) {amount : Int} (nonneg : 0 ≤ amount)
    (gapRevoked : pack.gap ≤ pack.creditsRevoked) :
    0 ≤ pack.absorbed amount ∧ pack.absorbed amount ≤ amount ∧ pack.absorbed amount ≤ pack.excess ∧
      (pack.absorbed amount = amount ∨ pack.absorbed amount = pack.excess) := by
  have same : pack.absorbed amount = min amount pack.excess := by
    rw [BillingCreditPack.absorbed, max_eq_right (sub_nonneg.mpr gapRevoked), BillingCreditPack.excess]
  rw [same]
  exact ⟨le_min nonneg (sub_nonneg.mpr gapRevoked), min_le_left _ _, min_le_right _ _, min_choice _ _⟩

theorem BillingCreditPack.Sound.restore {pack : BillingCreditPack} {counter : Counter}
    {amount now : Int} (sound : pack.Sound) (positive : 0 < amount)
    (covered : amount ≤ counter.read pack) : (pack.restore counter amount now).Sound := by
  obtain ⟨least, most, held, whole⟩ := pack.absorbed_bounds positive.le sound.gapRevoked
  obtain ⟨h1, h2, h3, h4, h5, h6, h7, h8, h9, h10, h11, h12⟩ := sound
  unfold BillingCreditPack.restore
  generalize pack.absorbed amount = absorbed at least most held whole ⊢
  cases counter <;>
    simp only [Counter.read, BillingCreditPack.excess, BillingCreditPack.gap, BillingCreditPack.accounted] at * <;>
    constructor <;>
    simp only [Counter.subtract, BillingCreditPack.gap, BillingCreditPack.accounted] <;>
    grind

end Thought2Build.Billing
