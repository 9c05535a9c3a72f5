import GaugeMesh.Json.Reference
import GaugeMesh.Route.Decision
import Mathlib.Algebra.Order.BigOperators.Group.List
import Mathlib.Data.Prod.Lex

/-! The decision depends on the set of the candidates alone and takes the least of them.
The order is that of the true scores, natural numbers that no arithmetic cuts off. -/
namespace GaugeMesh.Route
open Json

/-- The first of a sorted list is a least one. -/
theorem mergeSort_head {α : Type} {le : α → α → Bool} {items : List α} {first : α}
    (trans : ∀ a b c, le a b → le b c → le a c) (total : ∀ a b, le a b || le b a)
    (head : (items.mergeSort le).head? = some first) :
    first ∈ items ∧ ∀ item ∈ items, le first item := by
  obtain ⟨rest,sorted⟩ := List.head?_eq_some_iff.mp head
  have ordered := List.pairwise_mergeSort trans total items
  have mem : ∀ item, item ∈ items ↔ item = first ∨ item ∈ rest := by
    intro item
    have same : item ∈ items.mergeSort le ↔ item ∈ items := List.mem_mergeSort
    rw [← same,sorted,List.mem_cons]
  rw [sorted,List.pairwise_cons] at ordered
  refine ⟨(mem first).mpr (.inl rfl),fun item member => ?_⟩
  rcases (mem item).mp member with rfl | later
  · simpa using total item item
  · exact ordered.1 item later

def products (weights : RouteWeights) (c : RouteCandidate) : List Nat :=
  [weights.latency.toNat * c.metrics.latency.toNat,
    weights.cost.toNat * c.metrics.cost.toNat,
    weights.failure.toNat * c.metrics.failure.toNat,
    weights.semanticLoss.toNat * c.semanticLoss.toNat,
    weights.pressure.toNat * c.metrics.pressure.toNat,
    weights.exposure.toNat * c.metrics.exposure.toNat,
    weights.switching.toNat * c.metrics.switching.toNat]

def actionScore (weights : RouteWeights) (c : RouteCandidate) : Nat := (products weights c).sum

/-- Whether the weights passed their check. -/
def Normalized (weights : RouteWeights) : Prop := ∀ weight ∈ weights.all, weight ≤ 10000

/-- What has been checked of a candidate before it is scored. -/
structure Scored (weights : RouteWeights) (c : RouteCandidate) : Prop where
  weights : Normalized weights
  semanticLoss : c.semanticLoss ≤ 10000
  metrics : c.metrics.validate = .ok c.metrics

theorem product_toNat (weight metric : UInt32) :
    (weight.toUInt64 * metric.toUInt64).toNat = weight.toNat * metric.toNat := by
  have first := weight.toNat_lt
  have second := metric.toNat_lt
  have small : weight.toNat * metric.toNat < 2^32 * 2^32 := Nat.mul_lt_mul'' first second
  simp only [UInt64.toNat_mul,UInt32.toNat_toUInt64]
  exact Nat.mod_eq_of_lt small

/-- No product is cut off, whatever the metrics are. -/
theorem scoreTerms_products (weights : RouteWeights) (c : RouteCandidate) :
    (scoreTerms weights c).all.map UInt64.toNat = products weights c := by
  simp only [ScoreTerms.all,scoreTerms,products,List.map_cons,List.map_nil,product_toNat]

theorem addTerm_fold (terms : List UInt64) (sum : UInt64)
    (small : sum.toNat + (terms.map UInt64.toNat).sum < 2^64) :
    ∃ total, terms.foldlM addTerm sum = some total ∧
      total.toNat = sum.toNat + (terms.map UInt64.toNat).sum := by
  induction terms generalizing sum with
  | nil => exact ⟨sum,rfl,by simp⟩
  | cons term terms ih =>
    simp only [List.map_cons,List.sum_cons] at small ⊢
    have fits : sum.toNat + term.toNat < 2^64 := by omega
    have added : (sum + term).toNat = sum.toNat + term.toNat := by
      rw [UInt64.toNat_add,Nat.mod_eq_of_lt fits]
    obtain ⟨total,folded,value⟩ := ih (sum + term) (by omega)
    refine ⟨total,?_,by omega⟩
    simp only [List.foldlM_cons,addTerm,if_pos fits]
    exact folded

theorem validated (m : RouteMetricSnapshot) (ok : m.validate = .ok m) :
    ∀ metric ∈ [m.latency,m.cost,m.failure,m.pressure,m.exposure,m.switching],
      metric ≤ 10000 := by
  rw [RouteMetricSnapshot.validate] at ok
  split at ok
  · next all => simpa using all
  · cases ok

theorem products_bounded {weights : RouteWeights} {c : RouteCandidate} (scored : Scored weights c) :
    ∀ product ∈ products weights c, product ≤ 10000 * 10000 := by
  have metrics := validated c.metrics scored.metrics
  have loss := scored.semanticLoss
  have limits := scored.weights
  simp only [Normalized,RouteWeights.all,List.forall_mem_cons,UInt32.le_iff_toNat_le,
    UInt32.reduceToNat] at limits metrics loss
  obtain ⟨latency,cost,failure,semanticLoss,pressure,exposure,switching,_⟩ := limits
  obtain ⟨latency',cost',failure',pressure',exposure',switching',_⟩ := metrics
  simp only [products,List.forall_mem_cons]
  exact ⟨Nat.mul_le_mul latency latency',Nat.mul_le_mul cost cost',Nat.mul_le_mul failure failure',
    Nat.mul_le_mul semanticLoss loss,Nat.mul_le_mul pressure pressure',
    Nat.mul_le_mul exposure exposure',Nat.mul_le_mul switching switching',by simp⟩

/-- The sum of the terms of a candidate that has been checked is neither rejected nor cut off. -/
theorem total_actionScore {weights : RouteWeights} {c : RouteCandidate}
    (scored : Scored weights c) :
    ∃ total, (scoreTerms weights c).total = .ok total ∧ total.toNat = actionScore weights c := by
  have bounded := products_bounded scored
  have sum : (products weights c).sum ≤ 7 * (10000 * 10000) :=
    List.sum_le_card_nsmul _ _ bounded
  have values := scoreTerms_products weights c
  have accepted : ¬(scoreTerms weights c).all.any (· > maxScoreTerm) = true := by
    simp only [List.any_eq_true,decide_eq_true_eq,not_exists,not_and]
    intro term member large
    have value : term.toNat ∈ products weights c := values ▸ List.mem_map_of_mem member
    have := bounded _ value
    have : maxScoreTerm.toNat < term.toNat := UInt64.lt_iff_toNat_lt.mp large
    have : maxScoreTerm.toNat = 100000000 := rfl
    omega
  obtain ⟨total,folded,value⟩ := addTerm_fold (scoreTerms weights c).all 0 (by
    rw [values]
    have : (0 : UInt64).toNat = 0 := rfl
    omega)
  refine ⟨total,by rw [ScoreTerms.total,if_neg accepted,folded],?_⟩
  rw [value,values,actionScore]
  exact Nat.zero_add _

theorem sortById_perm (candidates : List RouteCandidate) :
    (sortById candidates).Perm candidates := List.mergeSort_perm _ _

theorem mem_sortById {candidates : List RouteCandidate} {c : RouteCandidate} :
    c ∈ sortById candidates ↔ c ∈ candidates := (sortById_perm candidates).mem_iff

theorem sortById_ordered (candidates : List RouteCandidate) :
    (sortById candidates).Pairwise fun a b => a.routeId.text ≤ b.routeId.text := by
  have sorted := @List.pairwise_mergeSort _
    (fun left right : RouteCandidate => decide (left.routeId.text ≤ right.routeId.text))
    (fun a b c first second => by
      simp only [decide_eq_true_eq] at first second ⊢
      exact first.trans second)
    (fun a b => by simpa using le_total a.routeId.text b.routeId.text) candidates
  simpa [sortById] using sorted

/-- In a sorted list equal ids stand side by side. -/
theorem duplicated_ordered {candidates : List RouteCandidate}
    (ordered : candidates.Pairwise fun a b => a.routeId.text ≤ b.routeId.text) :
    duplicated candidates = false ↔ (candidates.map (·.routeId)).Nodup := by
  induction candidates with
  | nil => simp [duplicated]
  | cons left rest ih =>
    obtain ⟨least,tail⟩ := List.pairwise_cons.mp ordered
    cases rest with
    | nil => simp [duplicated]
    | cons right rest =>
      simp only [duplicated,Bool.or_eq_false_iff,decide_eq_false_iff_not,ih tail,List.map_cons,
        List.nodup_cons (a := left.routeId)]
      refine and_congr_left fun _ => ⟨fun different member => ?_,fun absent same => ?_⟩
      · rcases List.mem_cons.mp member with same | later
        · exact different same
        · obtain ⟨other,inside,same⟩ := List.mem_map.mp later
          have first := least right (by simp)
          have second := (List.pairwise_cons.mp tail).1 other inside
          rw [same] at second
          exact different (RouteId.ext (first.antisymm second))
      · exact absent (by simp [same])

/-- Without duplicates the sorted list depends on the set of the candidates alone. -/
theorem sortById_unique {candidates other : List RouteCandidate} (perm : candidates.Perm other)
    (distinct : (candidates.map (·.routeId)).Nodup) : sortById candidates = sortById other := by
  have sorted := (sortById_perm candidates).trans (perm.trans (sortById_perm other).symm)
  refine sorted.eq_of_pairwise (fun a b first second below above => ?_)
    (sortById_ordered candidates) (sortById_ordered other)
  have same : a.routeId = b.routeId := RouteId.ext (below.antisymm above)
  exact List.inj_on_of_nodup_map distinct (mem_sortById.mp first)
    (perm.mem_iff.mpr (mem_sortById.mp second)) same

theorem duplicated_sortById (candidates : List RouteCandidate) :
    duplicated (sortById candidates) = false ↔ (candidates.map (·.routeId)).Nodup := by
  rw [duplicated_ordered (sortById_ordered candidates)]
  exact ((sortById_perm candidates).map _).nodup_iff

/-- What a normalized candidate has in common with the one it was. -/
def Same (a b : RouteCandidate) : Prop :=
  a.routeId = b.routeId ∧ a.hardConstraints.allowed = b.hardConstraints.allowed ∧
    a.metrics = b.metrics ∧ a.semanticLoss = b.semanticLoss

theorem normalizeRejections_same {c next : RouteCandidate}
    (normalized : normalizeRejections c = .ok next) : Same c next := by
  rw [normalizeRejections] at normalized
  split at normalized
  · cases normalized
    exact ⟨rfl,rfl,rfl,rfl⟩
  · split at normalized
    · cases normalized
    · cases normalized
      exact ⟨rfl,rfl,rfl,rfl⟩

theorem normalizeRejections_error {c : RouteCandidate} {error : RouteError}
    (refused : normalizeRejections c = .error error) : error = .rejectionRequired := by
  rw [normalizeRejections] at refused
  split at refused
  · cases refused
  · split at refused <;> cases refused
    rfl

theorem normalizeAll_same {candidates next : List RouteCandidate}
    (normalized : normalizeAll candidates = .ok next) : List.Forall₂ Same candidates next := by
  induction candidates generalizing next with
  | nil =>
    cases normalized
    exact .nil
  | cons c rest ih =>
    rw [normalizeAll] at normalized
    cases first : normalizeRejections c with
    | error error => simp [first,bind,Except.bind] at normalized
    | ok head =>
      cases others : normalizeAll rest with
      | error error => simp [first,others,bind,Except.bind] at normalized
      | ok tail =>
        simp only [first,others,bind,Except.bind,pure,Except.pure,Except.ok.injEq] at normalized
        subst normalized
        exact .cons (normalizeRejections_same first) (ih others)

theorem normalizeAll_error {candidates : List RouteCandidate} {error : RouteError}
    (refused : normalizeAll candidates = .error error) : error = .rejectionRequired := by
  induction candidates with
  | nil => cases refused
  | cons c rest ih =>
    rw [normalizeAll] at refused
    cases first : normalizeRejections c with
    | error other =>
      simp only [first,bind,Except.bind,Except.error.injEq] at refused
      exact refused ▸ normalizeRejections_error first
    | ok head =>
      cases others : normalizeAll rest with
      | error other =>
        simp only [first,others,bind,Except.bind,Except.error.injEq] at refused
        exact ih (refused ▸ others)
      | ok tail => simp [first,others,bind,Except.bind,pure,Except.pure] at refused

/-- A denied candidate says why it is denied. -/
def Justified (c : RouteCandidate) : Prop :=
  c.hardConstraints.allowed = false → c.hardConstraints.rejections ≠ [] ∧
    ∀ rejection ∈ c.hardConstraints.rejections, ¬blank rejection

theorem normalizeRejections_defined (c : RouteCandidate) :
    (∃ next, normalizeRejections c = .ok next) ↔ Justified c := by
  rw [normalizeRejections,Justified]
  cases c.hardConstraints.allowed
  · by_cases reasons : c.hardConstraints.rejections.isEmpty ||
        c.hardConstraints.rejections.any blank
    · simp [reasons]
      intro some
      simpa [some] using reasons
    · simp [reasons]
      simpa using reasons
  · simp

theorem normalizeAll_defined (candidates : List RouteCandidate) :
    (∃ next, normalizeAll candidates = .ok next) ↔ ∀ c ∈ candidates, Justified c := by
  induction candidates with
  | nil => simp [normalizeAll]
  | cons c rest ih =>
    rw [List.forall_mem_cons,← ih,← normalizeRejections_defined,normalizeAll]
    cases normalizeRejections c <;> cases normalizeAll rest <;>
      simp [bind,Except.bind,pure,Except.pure]

/-- A pair to be ranked is the score of an allowed candidate and its id. -/
def Scores (weights : RouteWeights) (c : RouteCandidate) (pair : UInt64 × RouteId) : Prop :=
  c.hardConstraints.allowed ∧ c.routeId = pair.2 ∧ actionScore weights c = pair.1.toNat

/-- What the loop leaves to be ranked: the allowed candidates with their scores. -/
structure Ranked (weights : RouteWeights) (candidates : List RouteCandidate)
    (eligible : List (UInt64 × RouteId)) : Prop where
  sound : ∀ pair ∈ eligible, ∃ c ∈ candidates, Scores weights c pair
  complete : ∀ c ∈ candidates, c.hardConstraints.allowed → ∃ pair ∈ eligible, Scores weights c pair

theorem validate_ok {m next : RouteMetricSnapshot} (ok : m.validate = .ok next) : next = m := by
  rw [RouteMetricSnapshot.validate] at ok
  split at ok <;> cases ok
  rfl

theorem validate_error {m : RouteMetricSnapshot} {error : RouteError}
    (refused : m.validate = .error error) : error = .metricOutOfRange := by
  rw [RouteMetricSnapshot.validate] at refused
  split at refused <;> cases refused
  rfl

theorem Ranked.skip {weights : RouteWeights} {c : RouteCandidate} {rest : List RouteCandidate}
    {eligible : List (UInt64 × RouteId)} (ranked : Ranked weights rest eligible)
    (denied : ¬c.hardConstraints.allowed) : Ranked weights (c :: rest) eligible := by
  constructor
  · intro pair member
    obtain ⟨other,inside,scores⟩ := ranked.sound pair member
    exact ⟨other,List.mem_cons_of_mem _ inside,scores⟩
  · intro other member allowed
    rcases List.mem_cons.mp member with rfl | later
    · exact absurd allowed denied
    · exact ranked.complete other later allowed

theorem Ranked.cons {weights : RouteWeights} {c : RouteCandidate} {rest : List RouteCandidate}
    {eligible : List (UInt64 × RouteId)} {score : UInt64} (ranked : Ranked weights rest eligible)
    (allowed : c.hardConstraints.allowed) (value : score.toNat = actionScore weights c) :
    Ranked weights (c :: rest) ((score,c.routeId) :: eligible) := by
  have head : Scores weights c (score,c.routeId) := ⟨allowed,rfl,value.symm⟩
  constructor
  · intro pair member
    rcases List.mem_cons.mp member with rfl | later
    · exact ⟨c,by simp,head⟩
    · obtain ⟨other,inside,scores⟩ := ranked.sound pair later
      exact ⟨other,List.mem_cons_of_mem _ inside,scores⟩
  · intro other member possible
    rcases List.mem_cons.mp member with rfl | later
    · exact ⟨_,by simp,head⟩
    · obtain ⟨pair,inside,scores⟩ := ranked.complete other later possible
      exact ⟨pair,List.mem_cons_of_mem _ inside,scores⟩

/-- The loop fails for a metric out of range and for nothing else. -/
theorem explain_cases {weights : RouteWeights} {candidates : List RouteCandidate}
    (normal : Normalized weights) (losses : ∀ c ∈ candidates, c.semanticLoss ≤ 10000) :
    explain weights candidates = .error .metricOutOfRange ∨
      ∃ explanation eligible, explain weights candidates = .ok (explanation,eligible) ∧
        Ranked weights candidates eligible := by
  induction candidates with
  | nil => exact .inr ⟨[],[],rfl,by simp,by simp⟩
  | cons c rest ih =>
    obtain ⟨loss,losses⟩ := List.forall_mem_cons.mp losses
    rw [explain]
    by_cases allowed : c.hardConstraints.allowed
    · rw [if_neg (not_not.mpr allowed)]
      cases checked : c.metrics.validate with
      | error error =>
        have := validate_error checked
        subst this
        exact .inl rfl
      | ok metric =>
        have := validate_ok checked
        subst this
        obtain ⟨score,totalled,value⟩ := total_actionScore (c := c) ⟨normal,loss,checked⟩
        simp only [bind,Except.bind,totalled]
        rcases ih losses with refused | ⟨explanation,eligible,explained,ranked⟩
        · simp [refused]
        · rw [explained]
          exact .inr ⟨_,_,rfl,ranked.cons allowed value⟩
    · rw [if_pos allowed]
      rcases ih losses with refused | ⟨explanation,eligible,explained,ranked⟩
      · simp [refused,bind,Except.bind]
      · rw [explained]
        exact .inr ⟨_,_,rfl,ranked.skip allowed⟩

/-- Whether the metrics of a candidate are checked, and pass. -/
def Measured (c : RouteCandidate) : Prop :=
  c.hardConstraints.allowed = true → c.metrics.validate = .ok c.metrics

theorem explain_defined {weights : RouteWeights} {candidates : List RouteCandidate}
    (normal : Normalized weights) (losses : ∀ c ∈ candidates, c.semanticLoss ≤ 10000) :
    (∃ result, explain weights candidates = .ok result) ↔ ∀ c ∈ candidates, Measured c := by
  induction candidates with
  | nil => simp [explain]
  | cons c rest ih =>
    obtain ⟨loss,losses⟩ := List.forall_mem_cons.mp losses
    rw [List.forall_mem_cons,← ih losses,explain,Measured]
    cases allowed : c.hardConstraints.allowed
    · cases explain weights rest <;> simp [bind,Except.bind,pure,Except.pure]
    · cases checked : c.metrics.validate with
      | error error => simp [bind,Except.bind]
      | ok metric =>
        have := validate_ok checked
        subst this
        obtain ⟨score,totalled,-⟩ := total_actionScore (c := c) ⟨normal,loss,checked⟩
        cases explain weights rest <;> simp [totalled,bind,Except.bind,pure,Except.pure]

theorem noLater_trans (a b c : UInt64 × RouteId) (first : noLater a b) (second : noLater b c) :
    noLater a c := by
  simp only [noLater,Bool.or_eq_true,Bool.and_eq_true,decide_eq_true_eq,UInt64.lt_iff_toNat_lt,
    ← UInt64.toNat_inj] at first second ⊢
  rcases first with first | ⟨same,first⟩ <;> rcases second with second | ⟨equal,second⟩
  · exact .inl (by omega)
  · exact .inl (by omega)
  · exact .inl (by omega)
  · exact .inr ⟨by omega,first.trans second⟩

theorem noLater_total (a b : UInt64 × RouteId) : noLater a b || noLater b a := by
  simp only [noLater,Bool.or_eq_true,Bool.and_eq_true,decide_eq_true_eq,UInt64.lt_iff_toNat_lt,
    ← UInt64.toNat_inj]
  have ids := le_total a.2.text b.2.text
  rcases lt_trichotomy a.1.toNat b.1.toNat with less | same | more
  · exact .inl (.inl less)
  · rcases ids with below | above
    · exact .inl (.inr ⟨same,below⟩)
    · exact .inr (.inr ⟨same.symm,above⟩)
  · exact .inr (.inl more)

/-- The rank of a candidate: the true score, and among equal scores the id. -/
def rank (weights : RouteWeights) (c : RouteCandidate) : Nat ×ₗ String :=
  toLex (actionScore weights c,c.routeId.text)

/-- The id and the score belong to an allowed candidate of least rank. -/
def Selects (weights : RouteWeights) (candidates : List RouteCandidate) (id : RouteId)
    (score : UInt64) : Prop :=
  ∃ chosen ∈ candidates, chosen.hardConstraints.allowed ∧ chosen.routeId = id ∧
    actionScore weights chosen = score.toNat ∧
    ∀ c ∈ candidates, c.hardConstraints.allowed → rank weights chosen ≤ rank weights c

theorem Ranked.selects {weights : RouteWeights} {candidates : List RouteCandidate}
    {eligible : List (UInt64 × RouteId)} (ranked : Ranked weights candidates eligible)
    {score : UInt64} {id : RouteId}
    (first : (eligible.mergeSort noLater).head? = some (score,id)) :
    Selects weights candidates id score := by
  obtain ⟨member,least⟩ := mergeSort_head noLater_trans noLater_total first
  obtain ⟨chosen,inside,allowed,same,value⟩ := ranked.sound _ member
  refine ⟨chosen,inside,allowed,same,value,fun c other possible => ?_⟩
  obtain ⟨pair,listed,_,id,total⟩ := ranked.complete c other possible
  have later := least pair listed
  simp only [noLater,Bool.or_eq_true,Bool.and_eq_true,decide_eq_true_eq,UInt64.lt_iff_toNat_lt,
    ← UInt64.toNat_inj] at later
  rw [rank,rank,Prod.Lex.toLex_le_toLex,value,total,same,id]
  exact later

theorem Ranked.denied {weights : RouteWeights} {candidates : List RouteCandidate}
    {eligible : List (UInt64 × RouteId)} (ranked : Ranked weights candidates eligible) :
    (eligible.mergeSort noLater).head? = none ↔
      ∀ c ∈ candidates, c.hardConstraints.allowed = false := by
  rw [List.head?_eq_none_iff,← List.length_eq_zero_iff,List.length_mergeSort,
    List.length_eq_zero_iff]
  constructor
  · rintro rfl c member
    by_contra allowed
    obtain ⟨pair,inside,_⟩ := ranked.complete c member (by simpa using allowed)
    cases inside
  · intro denied
    refine List.eq_nil_iff_forall_not_mem.mpr fun pair member => ?_
    obtain ⟨c,inside,allowed,_⟩ := ranked.sound pair member
    simp [denied c inside] at allowed

theorem Same.actionScore {a b : RouteCandidate} (same : Same a b) (weights : RouteWeights) :
    Route.actionScore weights a = Route.actionScore weights b := by
  obtain ⟨_,_,metrics,loss⟩ := same
  simp only [Route.actionScore,products,metrics,loss]

theorem Same.rank {a b : RouteCandidate} (same : Same a b) (weights : RouteWeights) :
    Route.rank weights a = Route.rank weights b := by
  rw [Route.rank,Route.rank,same.actionScore,same.1]

/-- A property of candidates is the same of the sorted and normalized ones. -/
theorem forall_normalized {candidates normalized : List RouteCandidate}
    (same : List.Forall₂ Same (sortById candidates) normalized) {p : RouteCandidate → Prop}
    (kept : ∀ a b, Same a b → (p a ↔ p b)) :
    (∀ c ∈ candidates, p c) ↔ ∀ c ∈ normalized, p c := by
  have sorted : (∀ c ∈ candidates, p c) ↔ ∀ c ∈ sortById candidates, p c := by
    simp only [mem_sortById]
  rw [sorted]
  generalize sortById candidates = items at same
  induction same with
  | nil => simp
  | cons head tail ih => simp only [List.forall_mem_cons,kept _ _ head,ih]

theorem Selects.original {weights : RouteWeights} {candidates normalized : List RouteCandidate}
    (same : List.Forall₂ Same (sortById candidates) normalized) {id : RouteId} {score : UInt64}
    (selects : Selects weights normalized id score) : Selects weights candidates id score := by
  by_contra absent
  have none : ∀ c ∈ candidates, ¬(c.hardConstraints.allowed ∧ c.routeId = id ∧
      actionScore weights c = score.toNat ∧
      ∀ other ∈ normalized, other.hardConstraints.allowed → rank weights c ≤ rank weights other) := by
    rintro c member ⟨allowed,named,value,least⟩
    refine absent ⟨c,member,allowed,named,value,?_⟩
    exact (forall_normalized same fun a b equal => by rw [equal.2.1,equal.rank]).mpr least
  rw [forall_normalized same fun a b equal => by
    rw [equal.1,equal.2.1,equal.actionScore,equal.rank]] at none
  obtain ⟨chosen,member,rest⟩ := selects
  exact none chosen member rest

theorem Selects.allowed {weights : RouteWeights} {candidates : List RouteCandidate} {id : RouteId}
    {score : UInt64} (selects : Selects weights candidates id score) :
    ¬∀ c ∈ candidates, c.hardConstraints.allowed = false := by
  obtain ⟨chosen,member,allowed,_⟩ := selects
  intro denied
  simp [denied chosen member] at allowed

section
variable [FloatText] [Sha256]

/-- The cases of a conclusion over checked candidates. -/
theorem conclude_cases {weights : RouteWeights} {candidates : List RouteCandidate}
    (normal : Normalized weights) (losses : ∀ c ∈ candidates, c.semanticLoss ≤ 10000) :
    conclude candidates weights = .error .metricOutOfRange ∨
    (∃ version digest plan, conclude candidates weights = .ok (.selected version digest plan) ∧
      Selects weights candidates plan.selected plan.actionScore) ∨
    (∃ version digest denial, conclude candidates weights = .ok (.denied version digest denial) ∧
      ∀ c ∈ candidates, c.hardConstraints.allowed = false) := by
  rcases explain_cases normal losses with refused | ⟨explanation,eligible,explained,ranked⟩
  · left
    simp only [conclude,refused,bind,Except.bind]
  · right
    cases first : (eligible.mergeSort noLater).head? with
    | none =>
      right
      simp only [conclude,explained,first,bind,Except.bind,pure,Except.pure]
      exact ⟨_,_,_,rfl,ranked.denied.mp first⟩
    | some pair =>
      left
      simp only [conclude,explained,first,bind,Except.bind,pure,Except.pure]
      exact ⟨_,_,_,rfl,ranked.selects first⟩

theorem conclude_defined (weights : RouteWeights) (candidates : List RouteCandidate) :
    (∃ decision, conclude candidates weights = .ok decision) ↔
      ∃ result, explain weights candidates = .ok result := by
  rw [conclude]
  cases explain weights candidates with
  | error error => simp [bind,Except.bind]
  | ok result =>
    obtain ⟨explanation,eligible⟩ := result
    cases first : (eligible.mergeSort noLater).head? <;>
      simp [first,bind,Except.bind,pure,Except.pure]

/-- The checks of a decision in their order. -/
theorem decide_checks (candidates : List RouteCandidate) (weights : RouteWeights) :
    Route.decide candidates weights =
      if weights.all.any (· > 10000) || candidates.any (·.semanticLoss > 10000) then
        .error .metricOutOfRange
      else if candidates.any (·.routeId.text.isEmpty) then .error .invalidRouteId
      else if duplicated (sortById candidates) then .error .duplicateRouteId
      else (normalizeAll (sortById candidates)).bind (conclude · weights) := by
  rw [Route.decide]
  by_cases range : weights.all.any (· > 10000) || candidates.any (·.semanticLoss > 10000)
  · rw [if_pos range,if_pos range]
    rfl
  by_cases empty : candidates.any (·.routeId.text.isEmpty)
  · rw [if_neg range,if_neg range,if_pos empty,if_pos empty]
    rfl
  rw [if_neg range,if_neg range,if_neg empty,if_neg empty]
  by_cases twice : duplicated (sortById candidates)
  · rw [if_pos twice]
    simp only [twice,↓reduceIte]
    rfl
  · rw [if_neg twice]
    simp only [twice]
    rfl

/-- The outcomes of a decision. -/
theorem decide_cases (candidates : List RouteCandidate) (weights : RouteWeights) :
    (∃ error, Route.decide candidates weights = .error error ∧ error ≠ .decisionScoreOutOfRange) ∨
    (∃ version digest plan,
      Route.decide candidates weights = .ok (.selected version digest plan) ∧
        Selects weights candidates plan.selected plan.actionScore) ∨
    (∃ version digest denial,
      Route.decide candidates weights = .ok (.denied version digest denial) ∧
        ∀ c ∈ candidates, c.hardConstraints.allowed = false) := by
  rw [decide_checks]
  split
  · exact .inl ⟨_,rfl,by simp⟩
  next inRange =>
  split
  · exact .inl ⟨_,rfl,by simp⟩
  split
  · exact .inl ⟨_,rfl,by simp⟩
  cases normalized : normalizeAll (sortById candidates) with
  | error error => exact .inl ⟨_,rfl,by simp [normalizeAll_error normalized]⟩
  | ok next =>
    have same := normalizeAll_same normalized
    simp only [Bool.or_eq_true,not_or,List.any_eq_true,decide_eq_true_eq,not_exists,not_and,
      gt_iff_lt] at inRange
    have normal : Normalized weights := fun weight member =>
      UInt32.not_lt.mp (inRange.1 weight member)
    have losses : ∀ c ∈ candidates, c.semanticLoss ≤ 10000 := fun c member =>
      UInt32.not_lt.mp (inRange.2 c member)
    rw [forall_normalized same fun a b equal => by rw [equal.2.2.2]] at losses
    rcases conclude_cases normal losses with refused |
      ⟨version,digest,plan,concluded,selects⟩ | ⟨version,digest,denial,concluded,denied⟩
    · exact .inl ⟨_,refused,by simp⟩
    · exact .inr (.inl ⟨version,digest,plan,concluded,selects.original same⟩)
    · rw [← forall_normalized same fun a b equal => by rw [equal.2.1]] at denied
      exact .inr (.inr ⟨version,digest,denial,concluded,denied⟩)

/-- What is asked of a candidate. -/
structure Acceptable (c : RouteCandidate) : Prop where
  named : c.routeId.text ≠ ""
  semanticLoss : c.semanticLoss ≤ 10000
  metrics : Measured c
  rejections : Justified c

/-- When a decision is made. The metrics of a denied candidate are not looked at. -/
theorem decide_defined (candidates : List RouteCandidate) (weights : RouteWeights) :
    (∃ decision, Route.decide candidates weights = .ok decision) ↔
      Normalized weights ∧ (candidates.map (·.routeId)).Nodup ∧ ∀ c ∈ candidates, Acceptable c := by
  rw [decide_checks]
  split
  next range =>
    simp only [Bool.or_eq_true,List.any_eq_true,decide_eq_true_eq] at range
    refine iff_of_false (by simp) ?_
    rintro ⟨normal,-,acceptable⟩
    rcases range with ⟨weight,member,large⟩ | ⟨c,member,large⟩
    · exact UInt32.not_lt.mpr (normal weight member) large
    · exact UInt32.not_lt.mpr (acceptable c member).semanticLoss large
  next inRange =>
  simp only [Bool.or_eq_true,not_or,List.any_eq_true,decide_eq_true_eq,not_exists,not_and,
    gt_iff_lt] at inRange
  have normal : Normalized weights := fun weight member =>
    UInt32.not_lt.mp (inRange.1 weight member)
  have losses : ∀ c ∈ candidates, c.semanticLoss ≤ 10000 := fun c member =>
    UInt32.not_lt.mp (inRange.2 c member)
  split
  next empty =>
    obtain ⟨c,member,unnamed⟩ := List.any_eq_true.mp empty
    refine iff_of_false (by simp) fun ⟨_,_,acceptable⟩ => ?_
    exact (acceptable c member).named (by simpa using unnamed)
  next names =>
  split
  next twice =>
    refine iff_of_false (by simp) fun ⟨_,distinct,_⟩ => ?_
    simp [(duplicated_sortById candidates).mpr distinct] at twice
  next once =>
  have distinct := (duplicated_sortById candidates).mp (by simpa using once)
  have justified := normalizeAll_defined (sortById candidates)
  simp only [mem_sortById] at justified
  cases normalized : normalizeAll (sortById candidates) with
  | error error =>
    refine iff_of_false (by simp [Except.bind]) fun ⟨_,_,acceptable⟩ => ?_
    obtain ⟨next,ok⟩ := justified.mpr fun c member => (acceptable c member).rejections
    rw [normalized] at ok
    cases ok
  | ok next =>
    have same := normalizeAll_same normalized
    have reasons := justified.mp ⟨next,normalized⟩
    have measured : (∀ c ∈ candidates, Measured c) ↔ ∀ c ∈ next, Measured c :=
      forall_normalized same fun a b equal => by rw [Measured,Measured,equal.2.1,equal.2.2.1]
    change (∃ decision, conclude next weights = .ok decision) ↔ _
    rw [conclude_defined,explain_defined normal ((forall_normalized same fun a b equal => by
      rw [equal.2.2.2]).mp losses),← measured]
    constructor
    · refine fun metrics => ⟨normal,distinct,fun c member => ?_⟩
      exact ⟨fun unnamed => names (List.any_eq_true.mpr ⟨c,member,by simp [unnamed]⟩),
        losses c member,metrics c member,reasons c member⟩
    · exact fun ⟨_,_,acceptable⟩ c member => (acceptable c member).metrics

theorem decide_perm {candidates other : List RouteCandidate} (perm : candidates.Perm other)
    (weights : RouteWeights) : Route.decide candidates weights = Route.decide other weights := by
  have losses := perm.any_eq (f := fun c => decide (c.semanticLoss > 10000))
  have ids := perm.any_eq (f := fun c => c.routeId.text.isEmpty)
  rw [decide_checks,decide_checks,losses,ids]
  by_cases distinct : (candidates.map (·.routeId)).Nodup
  · rw [sortById_unique perm distinct]
  · have first : duplicated (sortById candidates) = true := by
      rw [← Bool.not_eq_false,duplicated_sortById]
      exact distinct
    have second : duplicated (sortById other) = true := by
      rw [← Bool.not_eq_false,duplicated_sortById,← (perm.map _).nodup_iff]
      exact distinct
    rw [if_pos first,if_pos second]

/-- Any order of the candidates gives one outcome; a decision takes an allowed candidate of
least rank and denies if there is none; and no score is ever cut off or refused. -/
theorem decide_optimal (candidates : List RouteCandidate) (weights : RouteWeights) :
    (∀ other, candidates.Perm other →
      Route.decide candidates weights = Route.decide other weights) ∧
    (∀ version digest plan, Route.decide candidates weights =
        .ok (.selected version digest plan) →
      Selects weights candidates plan.selected plan.actionScore) ∧
    (∀ decision, Route.decide candidates weights = .ok decision →
      ((∃ version digest denial, decision = .denied version digest denial) ↔
        ∀ c ∈ candidates, c.hardConstraints.allowed = false)) ∧
    (∀ c, (scoreTerms weights c).all.map UInt64.toNat = products weights c) ∧
    (∀ c, Scored weights c → ∃ total, (scoreTerms weights c).total = .ok total ∧
      total.toNat = actionScore weights c) ∧
    Route.decide candidates weights ≠ .error .decisionScoreOutOfRange := by
  refine ⟨fun other perm => decide_perm perm weights,?_,?_,scoreTerms_products weights,
    fun c => total_actionScore,?_⟩
  all_goals
    rcases decide_cases candidates weights with ⟨error,refused,other⟩ |
      ⟨version,digest,plan,decided,selects⟩ | ⟨version,digest,denial,decided,denied⟩
  · simp [refused]
  · rw [decided]
    rintro _ _ _ ⟨⟩
    exact selects
  · simp [decided]
  · simp [refused]
  · rw [decided]
    rintro _ ⟨⟩
    simpa using selects.allowed
  · rw [decided]
    rintro _ ⟨⟩
    exact ⟨fun _ => denied,fun _ => ⟨_,_,_,rfl⟩⟩
  · simpa [refused] using other
  · simp [decided]
  · simp [decided]

end

section Example
open Reference

/-- The cheapest candidate is denied, and the last of the others is the better one. -/
def exampleCandidates : List RouteCandidate := [
  ⟨⟨"worker-b"⟩,"endpoint-b",⟨true,[]⟩,⟨200,10,1,4,0,2⟩,5⟩,
  ⟨⟨"worker-c"⟩,"endpoint-c",⟨false,["region"]⟩,⟨1,1,0,0,0,0⟩,0⟩,
  ⟨⟨"worker-a"⟩,"endpoint-a",⟨true,[]⟩,⟨100,70,2,8,1,0⟩,0⟩]

def exampleWeights : RouteWeights := ⟨2,3,5,10,1,1,1⟩

theorem example_decided :
    ∃ decision, Route.decide exampleCandidates exampleWeights = .ok decision := by
  refine (decide_defined ..).mpr ⟨?_,by decide,?_⟩
  · simp [Normalized,RouteWeights.all,exampleWeights]
  · simp only [exampleCandidates,List.forall_mem_cons]
    exact ⟨⟨by decide,by decide,fun _ => rfl,nofun⟩,
      ⟨by decide,by decide,nofun,fun _ => ⟨by decide,by decide⟩⟩,
      ⟨by decide,by decide,fun _ => rfl,nofun⟩,nofun⟩

theorem example_selects {id : RouteId} {score : UInt64}
    (selects : Selects exampleWeights exampleCandidates id score) :
    id = ⟨"worker-a"⟩ ∧ score = 429 := by
  obtain ⟨chosen,member,allowed,rfl,value,least⟩ := selects
  simp only [exampleCandidates,List.forall_mem_cons] at least
  obtain ⟨-,-,better,-⟩ := least
  simp only [exampleCandidates,List.mem_cons,List.not_mem_nil,or_false] at member
  rcases member with rfl | rfl | rfl
  · exact absurd (better trivial) (by decide)
  · cases allowed
  · exact ⟨rfl,UInt64.toNat_inj.mp value.symm⟩

theorem decide_optimal_example : ∃ version digest plan,
    Route.decide exampleCandidates exampleWeights = .ok (.selected version digest plan) ∧
      Route.decide exampleCandidates.reverse exampleWeights =
        .ok (.selected version digest plan) ∧
      plan.selected = ⟨"worker-a"⟩ ∧ plan.actionScore = 429 := by
  obtain ⟨perm,selects,denied,-⟩ := decide_optimal exampleCandidates exampleWeights
  obtain ⟨decision,decided⟩ := example_decided
  cases decision with
  | selected version digest plan =>
    have same := (perm _ (List.reverse_perm _).symm).symm.trans decided
    exact ⟨version,digest,plan,decided,same,example_selects (selects _ _ _ decided)⟩
  | denied version digest denial =>
    exact absurd ((denied _ decided).mp ⟨_,_,_,rfl⟩) (by decide)

end Example
end GaugeMesh.Route
