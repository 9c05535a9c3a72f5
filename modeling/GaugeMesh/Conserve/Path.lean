import Mathlib.Data.Finset.Basic
import Mathlib.Data.List.Chain
import Mathlib.Data.Rat.Floor

/-! Paths whose links each carry a bound that never grows along the way, and paths that
reach no node twice. -/
namespace Delegation

variable {Node Bound Link : Type} (source target : Link → Node) (bound : Link → Bound)

/-- A path from a node, under a bound, to a node, under a bound. -/
inductive Path [LE Bound] : Node → Bound → List Link → Node → Bound → Prop
  | stop (narrower : last ≤ limit) : Path n limit [] n last
  | link (joined : source link = n) (narrower : bound link ≤ limit)
      (rest : Path (target link) (bound link) links m last) : Path n limit (link :: links) m last

/-- No link leads to a node that has been seen, or that an earlier link led to. -/
structure Fresh (seen : Finset Node) (links : List Link) : Prop where
  nodup : (links.map target).Nodup
  unseen : ∀ link ∈ links, target link ∉ seen

section
variable {source target bound} [Preorder Bound] {n m k : Node} {limit middle last : Bound}
  {links more : List Link}

theorem Path.widen {wider : Bound} (path : Path source target bound n limit links m last)
    (more : limit ≤ wider) : Path source target bound n wider links m last := by
  cases path with
  | stop narrower => exact .stop (narrower.trans more)
  | link joined narrower rest => exact .link joined (narrower.trans more) rest

theorem Path.narrower (path : Path source target bound n limit links m last) : last ≤ limit := by
  induction path with
  | stop narrower => exact narrower
  | link _ narrower _ ih => exact ih.trans narrower

/-- Two paths that meet make one. -/
theorem Path.append (first : Path source target bound n limit links m middle)
    (second : Path source target bound m middle more k last) :
    Path source target bound n limit (links ++ more) k last := by
  induction first with
  | stop narrower => exact second.widen narrower
  | link joined narrower _ ih => exact .link joined narrower (ih second)

/-- Each link starts where the one before it ended; the path starts and ends at its ends. -/
theorem Path.connected (path : Path source target bound n limit links m last) :
    n :: links.map target = links.map source ++ [m] := by
  induction path with
  | stop => rfl
  | link joined _ _ ih => rw [List.map_cons,ih,List.map_cons,joined,List.cons_append]

/-- Every bound on the way is within the one before it. -/
theorem Path.narrowing (path : Path source target bound n limit links m last) :
    (limit :: links.map bound ++ [last]).IsChain fun wider narrower => narrower ≤ wider := by
  induction path with
  | stop narrower => exact .cons_cons narrower (.singleton _)
  | link _ narrower _ ih => exact .cons_cons narrower ih

/-- The start of a path that goes anywhere is the source of a link. -/
theorem Path.start (path : Path source target bound n limit links m last) :
    n = m ∨ ∃ link ∈ links, source link = n := by
  cases path with
  | stop => exact .inl rfl
  | link joined _ _ => exact .inr ⟨_,List.mem_cons_self,joined⟩

end

section
variable {target} {seen larger : Finset Node} {links more : List Link}

theorem Fresh.nil : Fresh target seen ([] : List Link) := ⟨.nil,nofun⟩

/-- Following one more link after everything seen so far. -/
theorem fresh_cons [DecidableEq Node] {link : Link} : Fresh target seen (link :: links) ↔
    target link ∉ seen ∧ Fresh target (insert (target link) seen) links := by
  constructor
  · rintro ⟨nodup,unseen⟩
    rw [List.map_cons,List.nodup_cons] at nodup
    refine ⟨unseen link List.mem_cons_self,nodup.2,fun other member => ?_⟩
    rw [Finset.mem_insert,not_or]
    refine ⟨fun same => nodup.1 ?_,unseen other (List.mem_cons_of_mem _ member)⟩
    exact same ▸ List.mem_map_of_mem member
  · rintro ⟨head,nodup,unseen⟩
    constructor
    · rw [List.map_cons,List.nodup_cons]
      refine ⟨fun member => ?_,nodup⟩
      obtain ⟨other,there,same⟩ := List.mem_map.mp member
      exact unseen other there (same ▸ Finset.mem_insert_self _ _)
    · rintro other member
      rcases List.mem_cons.mp member with rfl | there
      · exact head
      · exact fun found => unseen other there (Finset.mem_insert_of_mem found)

/-- What is fresh after a first path, and after all that path has seen, is fresh after it. -/
theorem Fresh.append (first : Fresh target seen links) (second : Fresh target larger more)
    (kept : seen ⊆ larger) (reached : ∀ link ∈ links, target link ∈ larger) :
    Fresh target seen (links ++ more) := by
  constructor
  · rw [List.map_append,List.nodup_append]
    refine ⟨first.nodup,second.nodup,?_⟩
    rintro n left m right rfl
    obtain ⟨link,member,rfl⟩ := List.mem_map.mp left
    obtain ⟨other,there,same⟩ := List.mem_map.mp right
    exact second.unseen other there (same ▸ reached link member)
  · intro link member
    rcases List.mem_append.mp member with left | right
    · exact first.unseen link left
    · exact fun found => second.unseen link right (kept found)

end
end Delegation
