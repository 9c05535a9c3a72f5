import GaugeMesh.Pool.Safety

/-! Who stands in the two lines of the pool, and which lock is whose. -/
namespace GaugeMesh.Pool
open Interleaving

namespace Activity

/-- In the line for the lock of the entries, or with it. -/
def queued : Activity → Bool
  | inLine _ | guard .. | reaping .. => true
  | _ => false

def awaitsSlot : Activity → Bool
  | awaitSlot _ => true
  | _ => false

end Activity

/-- What else holds in every reachable crowd: who stands in a line, and that the entries have locks
of their own, which are there while a client is at their guard. -/
structure Lined (c : Crowd ProcessPool Activity) : Prop where
  line : Queue c.state.line c.tasks Activity.queued
  slotLine : Queue c.state.slotLine c.tasks Activity.awaitsSlot
  apart : ∀ key other entry entry', c.state.entries.lookup key = some entry →
    c.state.entries.lookup other = some entry' → entry.serialization = entry'.serialization →
    key = other
  present : ∀ (i : Nat) slotted key, c.tasks[i]? = some (.guard slotted key) →
    key.needsSerialization = true ∧ ∃ entry, c.state.entries.lookup key = some entry

variable {maxProcesses : Nat} {c d : Crowd ProcessPool Activity} {i j : Nat} {s t : ProcessPool}
  {p q : Activity} {key : ProcessKey}

theorem erase_head {line : List Nat} (head : line.head? = some i) : line.tail = line.erase i := by
  cases line with
  | nil => simp at head
  | cons first rest =>
    obtain rfl : first = i := by simpa using head
    simp

theorem Act.turns (acted : Act i s p t q) (locked : p.locked = true → s.line.head? = some i) :
    Turns i s.line p.queued t.line q.queued := by
  cases acted
  case queue work => exact .inr (.inl ⟨rfl,rfl,rfl⟩)
  case missing key own _ => exact .inr (.inr ⟨erase_head own,rfl⟩)
  case insert key own _ => exact .inr (.inr ⟨erase_head own,rfl⟩)
  case reference slotted _ own _ =>
    refine .inr (.inr ⟨erase_head own,?_⟩)
    cases slotted <;> rfl
  case guarded slotted _ _ =>
    refine .inr (.inr ⟨erase_head (locked rfl),?_⟩)
    cases slotted <;> rfl
  case released permit own => exact .inr (.inr ⟨erase_head own,rfl⟩)
  case reaped => exact .inr (.inr ⟨erase_head (locked rfl),rfl⟩)
  case crashed key own =>
    refine .inr (.inr ⟨?_,rfl⟩)
    rcases s.recordCrash_cases key with same | same <;> rw [same] <;> exact erase_head own
  all_goals exact .inl ⟨rfl,rfl⟩

theorem Act.slotTurns (acted : Act i s p t q) :
    Turns i s.slotLine p.awaitsSlot t.slotLine q.awaitsSlot := by
  cases acted
  case awaitSlot key taken => exact .inr (.inl ⟨rfl,rfl,rfl⟩)
  case granted key turn => exact .inr (.inr ⟨rfl,rfl⟩)
  case reference slotted _ _ _ => cases slotted <;> exact .inl ⟨rfl,rfl⟩
  case guarded slotted _ _ => cases slotted <;> exact .inl ⟨rfl,rfl⟩
  case crashed key own =>
    rcases s.recordCrash_cases key with same | same <;> rw [same] <;> exact .inl ⟨rfl,rfl⟩
  all_goals exact .inl ⟨rfl,rfl⟩

theorem Abandon.turns (given : Abandon i s p t q)
    (locked : p.locked = true → s.line.head? = some i) :
    Turns i s.line p.queued t.line q.queued ∧
      Turns i s.slotLine p.awaitsSlot t.slotLine q.awaitsSlot := by
  cases given
  case enter work => cases work <;> exact ⟨.inl ⟨rfl,rfl⟩,.inl ⟨rfl,rfl⟩⟩
  case inLine work => cases work <;> exact ⟨.inr (.inr ⟨rfl,rfl⟩),.inl ⟨rfl,rfl⟩⟩
  case guard key slotted =>
    cases slotted <;> exact ⟨.inr (.inr ⟨erase_head (locked rfl),rfl⟩),.inl ⟨rfl,rfl⟩⟩
  case wantSlot => exact ⟨.inl ⟨rfl,rfl⟩,.inl ⟨rfl,rfl⟩⟩
  case awaitSlot => exact ⟨.inl ⟨rfl,rfl⟩,.inr (.inr ⟨rfl,rfl⟩)⟩

theorem Drift.slotLine (drifted : Drift s t) : t.slotLine = s.slotLine := by
  cases drifted <;> rfl

theorem Lined.act (lined : Lined c) (sound : Sound maxProcesses c) (here : c.tasks[i]? = some p)
    (acted : Act i c.state p t q) : Lined ⟨t,c.tasks.set i q⟩ where
  line := lined.line.moved here (acted.turns (sound.head i p here))
  slotLine := lined.slotLine.moved here acted.slotTurns
  apart := by
    -- A new lock is no lock there was.
    have fresh {key other : ProcessKey} {before after entry : PoolEntry}
        (found : c.state.entries.lookup key = some before) (carried : Carried before after)
        (new : entry.serialization = c.state.mutexes.length)
        (same : after.serialization = entry.serialization) : key = other := by
      have bound := sound.known key before found
      have old := carried.2
      omega
    intro key other entry entry' found found' same
    rcases acted.origin found with ⟨before,old,carried⟩ | ⟨at',new,-⟩
    · rcases acted.origin found' with ⟨before',old',carried'⟩ | ⟨-,new,-⟩
      · refine lined.apart key other before before' old old' ?_
        rw [← carried.2,← carried'.2,same]
      · exact fresh old carried new same
    · rcases acted.origin found' with ⟨before',old',carried'⟩ | ⟨at'',-,-⟩
      · exact (fresh old' carried' new same.symm).symm
      · rw [at'] at at''
        exact Section.slotted.inj (Activity.inLine.inj at'')
  present := by
    intro j slotted key there
    rcases getElem?_moved there with ⟨rfl,same⟩ | ⟨other,old⟩
    · cases acted
      case await entry name slotted' serialized own found =>
        obtain ⟨-,rfl⟩ := Activity.guard.inj same
        exact ⟨serialized,entry,found⟩
      case reference slotted' _ _ _ => cases slotted' <;> simp [Activity.referenced] at same
      case guarded slotted' _ _ => cases slotted' <;> simp [Activity.referenced] at same
      all_goals simp at same
    · obtain ⟨serialized,entry,found⟩ := lined.present j slotted key old
      rcases acted.carries found with ⟨expired,left,rfl⟩ | ⟨after,kept,-⟩
      · exact absurd (sound.reaping_alone here old rfl (.inr rfl)) other
      · exact ⟨serialized,after,kept⟩

theorem Lined.abandon (lined : Lined c) (sound : Sound maxProcesses c)
    (here : c.tasks[i]? = some p) (given : Abandon i c.state p t q) :
    Lined ⟨t,c.tasks.set i q⟩ where
  line := lined.line.moved here (given.turns (sound.head i p here)).1
  slotLine := lined.slotLine.moved here (given.turns (sound.head i p here)).2
  apart := by simpa only [given.slots.2.1] using lined.apart
  present := by
    intro j slotted key there
    rcases getElem?_moved there with ⟨rfl,same⟩ | ⟨other,old⟩
    · have unlocked := given.spec.2.2.1
      simp [← same,Activity.locked] at unlocked
    · simpa only [given.slots.2.1] using lined.present j slotted key old

theorem Lined.kept (lined : Lined c) (sound : Sound maxProcesses c)
    (stepped : (pool maxProcesses).Step c d) : Lined d := by
  cases stepped with
  | begin fresh =>
    obtain rfl := fresh
    exact { lined with
      line := lined.line.begun rfl
      slotLine := lined.slotLine.begun rfl
      present := by
        intro i slotted key there
        rcases getElem?_begun there with old | ⟨-,same⟩
        · exact lined.present i slotted key old
        · simp at same }
  | act here acted =>
    rcases acted with acted | given
    · exact lined.act sound here acted
    · exact lined.abandon sound here given
  | drift moved =>
    obtain ⟨line,entries,-⟩ := moved.spec sound.guards
    have slotLine : _ = c.state.slotLine := moved.slotLine
    exact {
      line := by simpa only [line] using lined.line
      slotLine := by simpa only [slotLine] using lined.slotLine
      apart := by simpa only [entries] using lined.apart
      present := by simpa only [entries] using lined.present }

theorem lined_of_reachable (reachable : (pool maxProcesses).Reachable c) : Lined c := by
  have both : Sound maxProcesses c ∧ Lined c := by
    refine reachable.invariant (fun c => Sound maxProcesses c ∧ Lined c) ?_ ?_
    · intro s bounded
      refine ⟨sound_of_reachable (.initial bounded),?_⟩
      simp only [pool,ProcessPool.bounded] at bounded
      split at bounded
      · obtain rfl := Option.some.inj bounded
        constructor <;> first | constructor <;> simp | simp
      · simp at bounded
    · exact fun c d holds stepped => ⟨holds.1.kept stepped,holds.2.kept holds.1 stepped⟩
  exact both.2

end GaugeMesh.Pool
