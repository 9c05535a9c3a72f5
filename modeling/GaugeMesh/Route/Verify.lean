import GaugeMesh.Json.Reference
import GaugeMesh.Route.Optimal

/-! `RouteDecision::verify_integrity`: the check of a decision that may have been altered
since it was made. What it accepts keeps the whole contract of a decision, and it accepts
every decision that was made. -/
namespace GaugeMesh.Route
open Json

def maxActionScore : UInt64 := 7 * maxScoreTerm

/-- `windows(2).any(|pair| pair[0] >= pair[1])`. -/
def outOfOrder : List String → Bool
  | left :: right :: rest => decide (right ≤ left) || outOfOrder (right :: rest)
  | _ => false

/-- The loop of `validate_explanations` over the candidates. -/
def validateExplanation (requireAllDenied : Bool) (candidate : CandidateExplanation) :
    Except RouteError Unit := do
  reject (candidate.routeId.text.isEmpty) .decisionContractInvalid
  if candidate.allowed then
    reject requireAllDenied .decisionContractInvalid
    reject (candidate.rejections ≠ []) .decisionContractInvalid
    reject (candidate.terms = none) .decisionContractInvalid
  else
    reject (candidate.terms ≠ none) .decisionContractInvalid
    reject (candidate.rejections = []) .decisionContractInvalid
    reject (candidate.rejections.any blank) .decisionContractInvalid
    reject (outOfOrder candidate.rejections) .decisionContractInvalid

def validateEach (requireAllDenied : Bool) : List CandidateExplanation → Except RouteError Unit
  | [] => .ok ()
  | candidate :: rest => do
    validateExplanation requireAllDenied candidate
    validateEach requireAllDenied rest

def validateExplanations (explanations : List CandidateExplanation) (requireAllDenied : Bool) :
    Except RouteError Unit := do
  reject (outOfOrder (explanations.map (·.routeId.text))) .decisionContractInvalid
  validateEach requireAllDenied explanations

/-- The candidates that have terms, with their totals. -/
def rankTerms : List CandidateExplanation → Except RouteError (List (UInt64 × RouteId))
  | [] => .ok []
  | candidate :: rest =>
    match candidate.terms with
    | none => rankTerms rest
    | some terms => do
      let score ← terms.total
      return (score,candidate.routeId) :: (← rankTerms rest)

namespace RoutePlan

/-- What is checked of a plan before its explanations are. -/
def verify (plan : RoutePlan) : Except RouteError Unit := do
  reject (plan.actionScore > maxActionScore) .decisionScoreOutOfRange
  reject (plan.selected ≠ plan.explanation.selected) .decisionContractInvalid
  reject (plan.explanation.tieBreaker ≠ tieBreaker) .decisionContractInvalid
  let selected ← okOr (plan.explanation.candidates.find? (·.routeId = plan.selected))
    .decisionContractInvalid
  let terms ← okOr selected.terms .decisionContractInvalid
  let selectedScore ← terms.total
  reject (selected.allowed = false) .decisionContractInvalid
  reject (selected.rejections ≠ []) .decisionContractInvalid
  reject (selectedScore ≠ plan.actionScore) .decisionContractInvalid
  let ranked ← rankTerms plan.explanation.candidates
  reject ((ranked.mergeSort noLater).head? ≠ some (plan.actionScore,plan.selected))
    .decisionContractInvalid

end RoutePlan

section

variable [FloatText] [Sha256]

def RouteDecision.verifyIntegrity (decision : RouteDecision) : Except RouteError Unit := do
  let (schemaVersion,explanations,allDenied) ← (match decision with
    | .selected schemaVersion decisionDigest plan => do
      reject (decisionDigest ≠ selectedDigest schemaVersion plan) .decisionDigestMismatch
      plan.verify
      return (schemaVersion,plan.explanation.candidates,false)
    | .denied schemaVersion decisionDigest denial => do
      reject (decisionDigest ≠ deniedDigest schemaVersion denial) .decisionDigestMismatch
      return (schemaVersion,denial.candidates,true) :
    Except RouteError (UInt16 × List CandidateExplanation × Bool))
  reject (schemaVersion ≠ 1) .unsupportedDecisionSchema
  validateExplanations explanations allDenied

end

/-- The sum of the terms, a natural number. -/
def ScoreTerms.sum (t : ScoreTerms) : Nat := (t.all.map UInt64.toNat).sum

/-- A candidate that is allowed has terms and no rejection; one that is denied has no terms,
and its rejections say something, in order and each once. -/
def CandidateExplanation.Explained (e : CandidateExplanation) : Prop :=
  e.routeId.text ≠ "" ∧
    ((e.allowed = true ∧ e.terms.isSome ∧ e.rejections = []) ∨
      (e.allowed = false ∧ e.terms = none ∧ e.rejections ≠ [] ∧
        e.rejections.Pairwise (· < ·) ∧ ∀ rejection ∈ e.rejections, ¬blank rejection))

/-- Candidates that are all explained, in the order of their ids. -/
structure Explained (candidates : List CandidateExplanation) : Prop where
  ordered : (candidates.map (·.routeId.text)).Pairwise (· < ·)
  each : ∀ e ∈ candidates, e.Explained

/-- The score and id are those of an allowed candidate, and no allowed candidate has a lower
sum, or that sum and a lower id. -/
def Least (candidates : List CandidateExplanation) (score : UInt64) (id : RouteId) : Prop :=
  (∃ e ∈ candidates, ∃ terms, e.allowed = true ∧ e.routeId = id ∧ e.terms = some terms ∧
    terms.sum = score.toNat) ∧
  ∀ e ∈ candidates, ∀ terms, e.allowed = true → e.terms = some terms →
    toLex (score.toNat,id.text) ≤ toLex (terms.sum,e.routeId.text)

/-- What a decision promises. -/
def RouteDecision.Contract : RouteDecision → Prop
  | .selected _ _ plan => Explained plan.explanation.candidates ∧
      Least plan.explanation.candidates plan.actionScore plan.selected
  | .denied _ _ denial => Explained denial.candidates ∧
      ∀ e ∈ denial.candidates, e.allowed = false

theorem outOfOrder_iff (names : List String) :
    outOfOrder names = false ↔ names.Pairwise (· < ·) := by
  rw [← List.isChain_iff_pairwise]
  induction names with
  | nil => simp [outOfOrder]
  | cons left rest ih =>
    cases rest with
    | nil => simp [outOfOrder]
    | cons right rest =>
      rw [outOfOrder,Bool.or_eq_false_iff,ih,List.isChain_cons_cons,decide_eq_false_iff_not,
        not_le]

theorem validateExplanation_ok (denied : Bool) (e : CandidateExplanation) :
    validateExplanation denied e = .ok () ↔
      e.Explained ∧ (denied = true → e.allowed = false) := by
  rw [validateExplanation,Except.then_ok,reject_ok]
  cases allowed : e.allowed
  · simp [Except.then_ok,reject_ok,CandidateExplanation.Explained,allowed,outOfOrder_iff]
    intro _ _ _
    exact and_comm
  · simp [Except.then_ok,reject_ok,CandidateExplanation.Explained,allowed]
    cases e.terms <;> cases denied <;> simp

theorem validateEach_ok (denied : Bool) (candidates : List CandidateExplanation) :
    validateEach denied candidates = .ok () ↔
      ∀ e ∈ candidates, e.Explained ∧ (denied = true → e.allowed = false) := by
  induction candidates with
  | nil => simp [validateEach]
  | cons e rest ih => rw [validateEach,Except.then_ok,validateExplanation_ok,ih,
      List.forall_mem_cons]

theorem validateExplanations_ok (denied : Bool) (candidates : List CandidateExplanation) :
    validateExplanations candidates denied = .ok () ↔
      Explained candidates ∧ (denied = true → ∀ e ∈ candidates, e.allowed = false) := by
  rw [validateExplanations,Except.then_ok,reject_ok,Bool.not_eq_true,outOfOrder_iff,
    validateEach_ok]
  constructor
  · rintro ⟨ordered,each⟩
    exact ⟨⟨ordered,fun e member => (each e member).1⟩,
      fun all e member => (each e member).2 all⟩
  · rintro ⟨⟨ordered,each⟩,all⟩
    exact ⟨ordered,fun e member => ⟨each e member,fun denied => all denied e member⟩⟩

theorem ScoreTerms.total_ok {t : ScoreTerms} {score : UInt64} (ok : t.total = .ok score) :
    score.toNat = t.sum ∧ score ≤ maxActionScore := by
  rw [total] at ok
  split at ok
  · cases ok
  next bounded =>
  have bounded : ∀ term ∈ t.all.map UInt64.toNat, term ≤ 100000000 := by
    simp only [List.any_eq_true,decide_eq_true_eq,not_exists,not_and,gt_iff_lt,
      UInt64.not_lt,UInt64.le_iff_toNat_le] at bounded
    intro term member
    obtain ⟨wide,inside,rfl⟩ := List.mem_map.mp member
    exact bounded wide inside
  have sum : t.sum ≤ 7 * 100000000 := List.sum_le_card_nsmul _ _ bounded
  obtain ⟨total,folded,value⟩ := addTerm_fold t.all 0 (by
    rw [← ScoreTerms.sum,UInt64.toNat_zero]
    omega)
  rw [folded] at ok
  cases ok
  rw [← ScoreTerms.sum,UInt64.toNat_zero,Nat.zero_add] at value
  refine ⟨value,UInt64.le_iff_toNat_le.mpr ?_⟩
  have : maxActionScore.toNat = 7 * 100000000 := rfl
  omega

theorem rankTerms_ok {candidates : List CandidateExplanation} {ranked : List (UInt64 × RouteId)}
    (ok : rankTerms candidates = .ok ranked) :
    (∀ pair ∈ ranked, ∃ e ∈ candidates, ∃ terms, e.terms = some terms ∧
      terms.total = .ok pair.1 ∧ e.routeId = pair.2) ∧
    (∀ e ∈ candidates, ∀ terms, e.terms = some terms → ∃ score, terms.total = .ok score ∧
      (score,e.routeId) ∈ ranked) := by
  induction candidates generalizing ranked with
  | nil => cases ok; simp
  | cons e rest ih =>
    rw [rankTerms] at ok
    cases terms : e.terms with
    | none =>
      simp only [terms] at ok
      obtain ⟨sound,complete⟩ := ih ok
      constructor
      · intro pair member
        obtain ⟨other,inside,found⟩ := sound pair member
        exact ⟨other,List.mem_cons_of_mem _ inside,found⟩
      · intro other member t some
        rcases List.mem_cons.mp member with rfl | later
        · simp [terms] at some
        · exact complete other later t some
    | some t =>
      simp only [terms,Except.bind_ok,Except.pure_ok,Except.ok.injEq] at ok
      obtain ⟨score,total,others,ranked,rfl⟩ := ok
      obtain ⟨sound,complete⟩ := ih ranked
      constructor
      · intro pair member
        rcases List.mem_cons.mp member with rfl | later
        · exact ⟨e,by simp,t,terms,total,rfl⟩
        · obtain ⟨other,inside,found⟩ := sound pair later
          exact ⟨other,List.mem_cons_of_mem _ inside,found⟩
      · intro other member u some
        rcases List.mem_cons.mp member with rfl | later
        · cases terms.symm.trans some
          exact ⟨score,total,by simp⟩
        · obtain ⟨value,totalled,inside⟩ := complete other later u some
          exact ⟨value,totalled,List.mem_cons_of_mem _ inside⟩

theorem rankTerms_defined {candidates : List CandidateExplanation}
    (totals : ∀ e ∈ candidates, ∀ terms, e.terms = some terms → ∃ score, terms.total = .ok score) :
    ∃ ranked, rankTerms candidates = .ok ranked := by
  induction candidates with
  | nil => exact ⟨_,rfl⟩
  | cons e rest ih =>
    obtain ⟨first,later⟩ := List.forall_mem_cons.mp totals
    obtain ⟨ranked,ok⟩ := ih later
    rw [rankTerms]
    cases terms : e.terms with
    | none => exact ⟨ranked,ok⟩
    | some t =>
      obtain ⟨score,total⟩ := first t terms
      exact ⟨_,by simp only [total,ok,bind,Except.bind]; rfl⟩

theorem noLater_iff (a b : UInt64 × RouteId) :
    noLater a b ↔ toLex (a.1.toNat,a.2.text) ≤ toLex (b.1.toNat,b.2.text) := by
  simp only [noLater,Bool.or_eq_true,Bool.and_eq_true,decide_eq_true_eq,UInt64.lt_iff_toNat_lt,
    ← UInt64.toNat_inj,Prod.Lex.toLex_le_toLex]

/-- The first of the ranked candidates is the least allowed one. -/
theorem first_iff_least {candidates : List CandidateExplanation}
    (explained : ∀ e ∈ candidates, e.Explained) {ranked : List (UInt64 × RouteId)}
    (ok : rankTerms candidates = .ok ranked) (score : UInt64) (id : RouteId) :
    (ranked.mergeSort noLater).head? = some (score,id) ↔ Least candidates score id := by
  obtain ⟨sound,complete⟩ := rankTerms_ok ok
  have allowed : ∀ e ∈ candidates, ∀ terms, e.terms = some terms → e.allowed = true := by
    intro e member terms some
    rcases (explained e member).2 with ⟨yes,-⟩ | ⟨-,none,-⟩
    · exact yes
    · simp [none] at some
  have pairs : ∀ e ∈ candidates, ∀ terms, e.terms = some terms →
      ∃ total, total.toNat = terms.sum ∧ (total,e.routeId) ∈ ranked := by
    intro e member terms some
    obtain ⟨total,added,inside⟩ := complete e member terms some
    exact ⟨total,(ScoreTerms.total_ok added).1,inside⟩
  constructor
  · intro first
    obtain ⟨member,least⟩ := mergeSort_head noLater_trans noLater_total first
    obtain ⟨e,inside,terms,some,total,named⟩ := sound _ member
    refine ⟨⟨e,inside,terms,allowed e inside terms some,named,some,
      (ScoreTerms.total_ok total).1.symm⟩,fun other listed t _ has => ?_⟩
    obtain ⟨value,sum,ranked⟩ := pairs other listed t has
    have := (noLater_iff _ _).mp (least _ ranked)
    rwa [sum] at this
  · rintro ⟨⟨e,inside,terms,yes,rfl,some,sum⟩,least⟩
    obtain ⟨total,same,member⟩ := pairs e inside terms some
    have : total = score := UInt64.toNat_inj.mp (same.trans sum)
    subst this
    cases first : (ranked.mergeSort noLater).head? with
    | none =>
      rw [List.head?_eq_none_iff,← List.length_eq_zero_iff,List.length_mergeSort,
        List.length_eq_zero_iff] at first
      simp [first] at member
    | some pair =>
      obtain ⟨listed,lowest⟩ := mergeSort_head noLater_trans noLater_total first
      obtain ⟨other,among,t,has,total',named⟩ := sound _ listed
      have below := (noLater_iff _ _).mp (lowest _ member)
      have above := least other among t (allowed other among t has) has
      rw [← (ScoreTerms.total_ok total').1,named] at above
      have equal := toLex.injective (below.antisymm above)
      obtain ⟨scores,ids⟩ := Prod.mk.inj equal
      exact congrArg Option.some (Prod.ext (UInt64.toNat_inj.mp scores) (RouteId.ext ids))

theorem find_named {candidates : List CandidateExplanation}
    (ordered : (candidates.map (·.routeId.text)).Pairwise (· < ·)) {e : CandidateExplanation}
    (inside : e ∈ candidates) : candidates.find? (·.routeId = e.routeId) = some e := by
  induction candidates with
  | nil => cases inside
  | cons head rest ih =>
    rw [List.map_cons,List.pairwise_cons] at ordered
    rcases List.mem_cons.mp inside with rfl | later
    · simp
    · have below := ordered.1 e.routeId.text (List.mem_map_of_mem later)
      have other : head.routeId ≠ e.routeId := fun same => by
        rw [same] at below
        exact absurd below (lt_irrefl _)
      rw [List.find?_cons_of_neg (by simpa using other),ih ordered.2 later]

/-- Over explained candidates a plan is accepted exactly when it names the least allowed one. -/
theorem RoutePlan.verify_ok (plan : RoutePlan) (explained : Explained plan.explanation.candidates) :
    plan.verify = .ok () ↔ plan.selected = plan.explanation.selected ∧
      plan.explanation.tieBreaker = tieBreaker ∧
      (∀ e ∈ plan.explanation.candidates, ∀ terms, e.terms = some terms →
        ∃ score, terms.total = .ok score) ∧
      Least plan.explanation.candidates plan.actionScore plan.selected := by
  simp only [verify,Except.then_ok,okOr_bind_ok,Except.bind_ok (x := ScoreTerms.total _),
    Except.bind_ok (x := rankTerms _),reject_ok,not_not]
  constructor
  · rintro ⟨-,same,breaker,_,-,_,-,_,-,-,-,-,ranked,ok,first⟩
    refine ⟨same,breaker,fun e member terms has => ?_,(first_iff_least explained.each ok ..).mp first⟩
    obtain ⟨score,total,-⟩ := (rankTerms_ok ok).2 e member terms has
    exact ⟨score,total⟩
  · rintro ⟨same,breaker,totals,least⟩
    obtain ⟨e,inside,terms,allowed,named,has,sum⟩ := least.1
    obtain ⟨score,total⟩ := totals e inside terms has
    obtain ⟨ranked,ok⟩ := rankTerms_defined totals
    have value : score = plan.actionScore :=
      UInt64.toNat_inj.mp ((ScoreTerms.total_ok total).1.trans sum)
    have found : plan.explanation.candidates.find? (·.routeId = plan.selected) = some e := by
      rw [← named]
      exact find_named explained.ordered inside
    have clean : e.rejections = [] := by
      rcases (explained.each e inside).2 with ⟨-,-,empty⟩ | ⟨denied,-⟩
      · exact empty
      · simp [denied] at allowed
    refine ⟨?_,same,breaker,e,found,terms,has,score,total,by simp [allowed],clean,value,ranked,ok,
      (first_iff_least explained.each ok ..).mpr least⟩
    rw [← value]
    exact UInt64.not_lt.mpr (ScoreTerms.total_ok total).2

theorem sorted_names (names : List String) :
    (names.mergeSort fun left right => decide (left ≤ right)).Pairwise (· ≤ ·) := by
  have sorted := @List.pairwise_mergeSort _ (fun left right : String => decide (left ≤ right))
    (fun a b c first second => by
      simp only [decide_eq_true_eq] at first second ⊢
      exact first.trans second)
    (fun a b => by simpa using le_total a b) names
  simpa using sorted

/-- A sorted list without equal neighbours is strictly sorted. -/
theorem strict_of_distinct {names : List String} (sorted : names.Pairwise (· ≤ ·))
    (distinct : names.IsChain (· ≠ ·)) : names.Pairwise (· < ·) := by
  rw [← List.isChain_iff_pairwise] at sorted ⊢
  induction names with
  | nil => exact .nil
  | cons left rest ih =>
    cases rest with
    | nil => exact .singleton _
    | cons right rest =>
      rw [List.isChain_cons_cons] at sorted distinct ⊢
      exact ⟨lt_of_le_of_ne sorted.1 distinct.1,ih sorted.2 distinct.2⟩

theorem normalizeRejections_explained {c next : RouteCandidate}
    (normalized : normalizeRejections c = .ok next) (denied : next.hardConstraints.allowed = false) :
    next.hardConstraints.rejections ≠ [] ∧ next.hardConstraints.rejections.Pairwise (· < ·) ∧
      ∀ rejection ∈ next.hardConstraints.rejections, ¬blank rejection := by
  rw [normalizeRejections] at normalized
  split at normalized
  · next allowed => cases normalized; simp [denied] at allowed
  split at normalized
  · cases normalized
  next stated =>
  cases normalized
  simp only [Bool.or_eq_true,not_or,List.isEmpty_iff,List.any_eq_true,not_exists,not_and] at stated
  obtain ⟨nonempty,stated⟩ := stated
  have kept := List.destutter_sublist (· ≠ ·) (c.hardConstraints.rejections.mergeSort fun left right =>
    decide (left ≤ right))
  refine ⟨?_,?_,fun rejection member => ?_⟩
  · rw [Ne,List.destutter_eq_nil,← List.length_eq_zero_iff,List.length_mergeSort,
      List.length_eq_zero_iff]
    exact nonempty
  · exact strict_of_distinct ((sorted_names _).sublist kept) (List.isChain_destutter _ _)
  · exact stated rejection (List.mem_mergeSort.mp (kept.subset member))

/-- What `normalizeAll` leaves of the rejections. -/
def Stated (c : RouteCandidate) : Prop := c.hardConstraints.allowed = false →
  c.hardConstraints.rejections ≠ [] ∧ c.hardConstraints.rejections.Pairwise (· < ·) ∧
    ∀ rejection ∈ c.hardConstraints.rejections, ¬blank rejection

theorem normalizeAll_stated {candidates next : List RouteCandidate}
    (normalized : normalizeAll candidates = .ok next) : ∀ c ∈ next, Stated c := by
  induction candidates generalizing next with
  | nil => cases normalized; simp
  | cons c rest ih =>
    simp only [normalizeAll,Except.bind_ok,Except.pure_ok,Except.ok.injEq] at normalized
    obtain ⟨head,first,tail,others,rfl⟩ := normalized
    exact List.forall_mem_cons.mpr ⟨normalizeRejections_explained first,ih others⟩

/-- The loop explains every candidate in its place, and what it ranks are the totals of the
terms it explains. -/
theorem explain_explained {weights : RouteWeights} {candidates : List RouteCandidate}
    {explanation : List CandidateExplanation} {eligible : List (UInt64 × RouteId)}
    (explained : explain weights candidates = .ok (explanation,eligible)) :
    explanation.map (·.routeId) = candidates.map (·.routeId) ∧
      rankTerms explanation = .ok eligible ∧
      ((∀ c ∈ candidates, c.routeId.text ≠ "" ∧ Stated c) → ∀ e ∈ explanation, e.Explained) := by
  induction candidates generalizing explanation eligible with
  | nil => cases explained; exact ⟨rfl,rfl,by simp⟩
  | cons c rest ih =>
    rw [explain] at explained
    split at explained
    · next denied =>
      simp only [Except.bind_ok,Except.pure_ok,Except.ok.injEq,Prod.mk.injEq] at explained
      obtain ⟨⟨others,pairs⟩,later,rfl,rfl⟩ := explained
      obtain ⟨ids,ranked,each⟩ := ih later
      refine ⟨by simp [ids],ranked,fun stated => ?_⟩
      obtain ⟨⟨named,reasons⟩,stated⟩ := List.forall_mem_cons.mp stated
      exact List.forall_mem_cons.mpr ⟨⟨named,.inr ⟨rfl,rfl,reasons (by simpa using denied)⟩⟩,
        each stated⟩
    · simp only [Except.bind_ok,Except.pure_ok,Except.ok.injEq,Prod.mk.injEq] at explained
      obtain ⟨_,-,score,total,⟨others,pairs⟩,later,rfl,rfl⟩ := explained
      obtain ⟨ids,ranked,each⟩ := ih later
      refine ⟨by simp [ids],by simp [rankTerms,total,ranked,bind,Except.bind,pure,Except.pure],
        fun stated => ?_⟩
      obtain ⟨⟨named,-⟩,stated⟩ := List.forall_mem_cons.mp stated
      exact List.forall_mem_cons.mpr ⟨⟨named,.inl ⟨rfl,rfl,rfl⟩⟩,each stated⟩

section

variable [FloatText] [Sha256]

theorem verifyIntegrity_selected (version : UInt16) (digest : Sha256Digest) (plan : RoutePlan) :
    (RouteDecision.selected version digest plan).verifyIntegrity = .ok () ↔
      digest = selectedDigest version plan ∧ plan.verify = .ok () ∧ version = 1 ∧
        Explained plan.explanation.candidates := by
  simp only [RouteDecision.verifyIntegrity]
  rw [Except.bind_ok]
  simp only [Except.then_ok,reject_ok,not_not,Except.pure_ok,Except.ok.injEq]
  constructor
  · rintro ⟨_,⟨same,verified,rfl⟩,one,explanations⟩
    exact ⟨same,verified,one,((validateExplanations_ok ..).mp explanations).1⟩
  · rintro ⟨same,verified,one,explained⟩
    exact ⟨_,⟨same,verified,rfl⟩,one,(validateExplanations_ok ..).mpr ⟨explained,nofun⟩⟩

theorem verifyIntegrity_denied (version : UInt16) (digest : Sha256Digest) (denial : RouteDenial) :
    (RouteDecision.denied version digest denial).verifyIntegrity = .ok () ↔
      digest = deniedDigest version denial ∧ version = 1 ∧ Explained denial.candidates ∧
        ∀ e ∈ denial.candidates, e.allowed = false := by
  simp only [RouteDecision.verifyIntegrity]
  rw [Except.bind_ok]
  simp only [Except.then_ok,reject_ok,not_not,Except.pure_ok,Except.ok.injEq]
  constructor
  · rintro ⟨_,⟨same,rfl⟩,one,explanations⟩
    obtain ⟨explained,denied⟩ := (validateExplanations_ok ..).mp explanations
    exact ⟨same,one,explained,denied rfl⟩
  · rintro ⟨same,one,explained,denied⟩
    exact ⟨_,⟨same,rfl⟩,one,(validateExplanations_ok ..).mpr ⟨explained,fun _ => denied⟩⟩

/-- A conclusion over candidates in order, each named and its denial stated, is accepted. -/
theorem conclude_verified {weights : RouteWeights} {candidates : List RouteCandidate}
    (ordered : (candidates.map (·.routeId.text)).Pairwise (· < ·))
    (stated : ∀ c ∈ candidates, c.routeId.text ≠ "" ∧ Stated c) {decision : RouteDecision}
    (concluded : conclude candidates weights = .ok decision) :
    decision.verifyIntegrity = .ok () := by
  simp only [conclude,Except.bind_ok] at concluded
  obtain ⟨⟨explanation,eligible⟩,loop,concluded⟩ := concluded
  obtain ⟨ids,ranked,each⟩ := explain_explained loop
  have explained : Explained explanation := by
    refine ⟨?_,each stated⟩
    have texts := congrArg (List.map RouteId.text) ids
    rw [List.map_map,List.map_map] at texts
    rw [show explanation.map (·.routeId.text) = _ from texts]
    exact ordered
  cases first : (eligible.mergeSort noLater).head? with
  | none =>
    simp only [first,Except.pure_ok,Except.ok.injEq] at concluded
    subst concluded
    refine (verifyIntegrity_denied ..).mpr ⟨rfl,rfl,explained,fun e member => ?_⟩
    -- An allowed candidate would have been ranked.
    rcases (explained.each e member).2 with ⟨-,some,-⟩ | ⟨denied,-⟩
    · obtain ⟨terms,has⟩ := Option.isSome_iff_exists.mp some
      obtain ⟨score,-,inside⟩ := (rankTerms_ok ranked).2 e member terms has
      rw [List.head?_eq_none_iff,← List.length_eq_zero_iff,List.length_mergeSort,
        List.length_eq_zero_iff] at first
      simp [first] at inside
    · exact denied
  | some pair =>
    obtain ⟨actionScore,selected⟩ := pair
    simp only [first,Except.pure_ok,Except.ok.injEq] at concluded
    subst concluded
    refine (verifyIntegrity_selected ..).mpr ⟨rfl,?_,rfl,explained⟩
    refine (RoutePlan.verify_ok _ explained).mpr ⟨rfl,rfl,fun e member terms has => ?_,
      (first_iff_least explained.each ranked ..).mp first⟩
    obtain ⟨score,total,-⟩ := (rankTerms_ok ranked).2 e member terms has
    exact ⟨score,total⟩

theorem decide_verified {candidates : List RouteCandidate} {weights : RouteWeights}
    {decision : RouteDecision} (decided : Route.decide candidates weights = .ok decision) :
    decision.verifyIntegrity = .ok () := by
  rw [decide_checks] at decided
  split at decided
  · cases decided
  split at decided
  · cases decided
  next named =>
  split at decided
  · cases decided
  next single =>
  obtain ⟨next,normalized,concluded⟩ := Except.bind_ok.mp decided
  have same := normalizeAll_same normalized
  have ids : ∀ {a b : List RouteCandidate}, List.Forall₂ Same a b →
      a.map (·.routeId) = b.map (·.routeId) := by
    intro a b pairs
    induction pairs with
    | nil => rfl
    | cons head tail ih => simp only [List.map_cons,ih,head.1]
  have filled : ∀ c ∈ next, c.routeId.text ≠ "" := by
    rw [← forall_normalized same fun a b equal => by rw [equal.1]]
    simpa using named
  have distinct : (sortById candidates).Pairwise fun a b => a.routeId ≠ b.routeId := by
    have := (duplicated_ordered (sortById_ordered candidates)).mp (by simpa using single)
    exact List.pairwise_map.mp this
  refine conclude_verified ?_
    (fun c member => ⟨filled c member,normalizeAll_stated normalized c member⟩) concluded
  have texts : next.map (·.routeId.text) = (sortById candidates).map (·.routeId.text) := by
    have := congrArg (List.map RouteId.text) (ids same)
    rw [List.map_map,List.map_map] at this
    exact this.symm
  rw [texts,List.pairwise_map]
  refine ((sortById_ordered candidates).and distinct).imp fun ⟨below,other⟩ => ?_
  exact lt_of_le_of_ne below fun same => other (RouteId.ext same)

theorem contract_of_verified {decision : RouteDecision}
    (verified : decision.verifyIntegrity = .ok ()) : decision.Contract := by
  cases decision with
  | selected version digest plan =>
    obtain ⟨-,plan,-,explained⟩ := (verifyIntegrity_selected ..).mp verified
    exact ⟨explained,((RoutePlan.verify_ok _ explained).mp plan).2.2.2⟩
  | denied version digest denial =>
    obtain ⟨-,-,explained,denied⟩ := (verifyIntegrity_denied ..).mp verified
    exact ⟨explained,denied⟩

/-- Every decision that is made is accepted, and every decision that is accepted, however it
came about, keeps the contract. -/
theorem decision_verified :
    (∀ candidates weights decision, Route.decide candidates weights = .ok decision →
      decision.verifyIntegrity = .ok ()) ∧
    ∀ decision : RouteDecision, decision.verifyIntegrity = .ok () → decision.Contract :=
  ⟨fun _ _ _ => decide_verified,fun _ => contract_of_verified⟩

end

section Example
open Reference

theorem decision_verified_example : ∃ version digest plan,
    let decision := RouteDecision.selected version digest plan
    Route.decide exampleCandidates exampleWeights = .ok decision ∧
      plan.selected = ⟨"worker-a"⟩ ∧ plan.actionScore = 429 ∧
      decision.verifyIntegrity = .ok () ∧ decision.Contract := by
  obtain ⟨decision,decided⟩ := example_decided
  have verified := decision_verified.1 _ _ _ decided
  have contract := decision_verified.2 decision verified
  rcases decide_cases exampleCandidates exampleWeights with ⟨error,refused,-⟩ |
    ⟨version,digest,plan,selected,selects⟩ | ⟨version,digest,denial,-,denied⟩
  · cases refused.symm.trans decided
  · cases selected.symm.trans decided
    obtain ⟨chosen,score⟩ := example_selects selects
    exact ⟨version,digest,plan,decided,chosen,score,verified,contract⟩
  · exact absurd denied (by decide)

end Example
end GaugeMesh.Route
