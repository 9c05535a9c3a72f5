import Mathlib.Data.List.Nodup
import Mathlib.Data.Rat.Floor

/-! Entries kept under keys in a list: one key is looked up, its entry changed or removed, and
an entry is added for a key that has none. -/
namespace Keyed

variable {κ α : Type} [DecidableEq κ]

def update (key : κ) (change : α → α) (entries : List (κ × α)) : List (κ × α) :=
  entries.map fun entry => if entry.1 = key then (entry.1,change entry.2) else entry

def remove (key : κ) (entries : List (κ × α)) : List (κ × α) :=
  entries.filter fun entry => entry.1 ≠ key

/-- No key has two entries. -/
def Distinct (entries : List (κ × α)) : Prop := (entries.map Prod.fst).Nodup

variable {entries : List (κ × α)} {key other : κ} {a : α} {change : α → α}

theorem lookup_cons (name other : κ) (value : α) (rest : List (κ × α)) :
    ((name,value) :: rest).lookup other = if other = name then some value else rest.lookup other := by
  by_cases same : other = name
  · simp [same]
  · have test : (other == name) = false := beq_eq_false_iff_ne.mpr same
    simp [List.lookup_cons,test,same]

theorem lookup_update (key other : κ) (change : α → α) (entries : List (κ × α)) :
    (update key change entries).lookup other =
      if other = key then (entries.lookup other).map change else entries.lookup other := by
  induction entries with
  | nil => simp [update]
  | cons entry rest ih =>
    obtain ⟨name,value⟩ := entry
    have head : update key change ((name,value) :: rest) =
        (name,if name = key then change value else value) :: update key change rest := by
      by_cases same : name = key <;> simp [update,same]
    rw [head,lookup_cons,lookup_cons,ih]
    by_cases asked : other = name <;> by_cases same : other = key <;> simp_all

@[simp] theorem lookup_update_self :
    (update key change entries).lookup key = (entries.lookup key).map change := by
  simp [lookup_update]

theorem lookup_remove (key other : κ) (entries : List (κ × α)) :
    (remove key entries).lookup other = if other = key then none else entries.lookup other := by
  induction entries with
  | nil => simp [remove]
  | cons entry rest ih =>
    obtain ⟨name,value⟩ := entry
    by_cases same : name = key
    · have head : remove key ((name,value) :: rest) = remove key rest := by simp [remove,same]
      rw [head,lookup_cons,ih]
      by_cases asked : other = name <;> simp_all
    · have head : remove key ((name,value) :: rest) = (name,value) :: remove key rest := by
        simp [remove,same]
      rw [head,lookup_cons,lookup_cons,ih]
      by_cases asked : other = name <;> simp_all

@[simp] theorem lookup_remove_self : (remove key entries).lookup key = none := by
  simp [lookup_remove]

theorem lookup_remove_ne (different : other ≠ key) :
    (remove key entries).lookup other = entries.lookup other := by
  simp [lookup_remove,different]

theorem lookup_add (absent : entries.lookup key = none) (other : κ) :
    (entries ++ [(key,a)]).lookup other =
      if other = key then some a else entries.lookup other := by
  rw [List.lookup_append]
  by_cases same : other = key
  · simp [same,absent]
  · simp [same,lookup_cons]

@[simp] theorem length_update : (update key change entries).length = entries.length := by
  simp [update]

theorem mem_of_lookup (found : entries.lookup key = some a) : (key,a) ∈ entries := by
  obtain ⟨before,after,split,-⟩ := List.lookup_eq_some_iff.mp found
  simp [split]

theorem absent_of_lookup (absent : entries.lookup key = none) :
    ∀ entry ∈ entries, entry.1 ≠ key := by
  intro entry member same
  have different := List.lookup_eq_none_iff.mp absent entry member
  simp [same] at different

theorem lookup_of_mem (distinct : Distinct entries) (member : (key,a) ∈ entries) :
    entries.lookup key = some a := by
  cases found : entries.lookup key with
  | none => exact absurd rfl (absent_of_lookup found _ member)
  | some b =>
    have same := List.inj_on_of_nodup_map distinct member (mem_of_lookup found) rfl
    exact congrArg (fun entry => some entry.2) same.symm

@[simp] theorem keys_update : (update key change entries).map Prod.fst = entries.map Prod.fst := by
  rw [update,List.map_map]
  apply List.map_congr_left
  intro entry _
  by_cases same : entry.1 = key <;> simp [same]

theorem Distinct.update (distinct : Distinct entries) : Distinct (update key change entries) := by
  simpa [Distinct] using distinct

theorem Distinct.remove (distinct : Distinct entries) : Distinct (remove key entries) :=
  distinct.sublist (List.filter_sublist.map Prod.fst)

theorem Distinct.add (distinct : Distinct entries) (absent : entries.lookup key = none) :
    Distinct (entries ++ [(key,a)]) := by
  rw [Distinct,List.map_append]
  refine List.nodup_append.mpr ⟨distinct,by simp,?_⟩
  intro name member last same
  obtain ⟨entry,old,rfl⟩ := List.mem_map.mp member
  simp only [List.map_cons,List.map_nil,List.mem_singleton] at same
  intro equal
  exact absent_of_lookup absent entry old (equal.trans same)

/-- A key with an entry has just that one to remove. -/
theorem length_remove (distinct : Distinct entries) :
    (remove key entries).length + ((entries.lookup key).isSome).toNat = entries.length := by
  induction entries with
  | nil => rfl
  | cons entry rest ih =>
    obtain ⟨name,value⟩ := entry
    obtain ⟨fresh,distinct⟩ := List.nodup_cons.mp distinct
    have kept := ih distinct
    by_cases same : name = key
    · subst same
      have absent : rest.lookup name = none := by
        cases found : rest.lookup name with
        | none => rfl
        | some b => exact absurd (List.mem_map_of_mem (mem_of_lookup found)) fresh
      simp only [absent,Option.isSome_none,Bool.toNat_false,Nat.add_zero] at kept
      simp [remove,kept.symm]
    · have asked : ¬key = name := fun equal => same equal.symm
      rw [lookup_cons,if_neg asked]
      simp only [remove,ne_eq,same,not_false_eq_true,decide_true,List.filter_cons_of_pos,
        List.length_cons] at kept ⊢
      omega

/-- Where a value takes the place of another, a sum over the entries has the new weight instead of
the old one. -/
theorem sum_update {b : α} (weight : α → Nat) (distinct : Distinct entries)
    (found : entries.lookup key = some a) :
    ((update key (fun _ => b) entries).map fun entry => weight entry.2).sum + weight a =
      (entries.map fun entry => weight entry.2).sum + weight b := by
  induction entries with
  | nil => cases found
  | cons entry rest ih =>
    obtain ⟨name,value⟩ := entry
    rw [lookup_cons] at found
    obtain ⟨fresh,distinct⟩ := List.nodup_cons.mp distinct
    split at found
    · next same =>
      cases found
      have others : update key (fun _ => b) rest = rest := by
        refine (List.map_congr_left fun entry member => ?_).trans (List.map_id rest)
        have different : entry.1 ≠ key := by
          rw [same]
          rintro rfl
          exact fresh (List.mem_map.mpr ⟨entry,member,rfl⟩)
        rw [if_neg different]
        rfl
      have head : update key (fun _ => b) ((name,a) :: rest) =
          (name,b) :: update key (fun _ => b) rest := by
        rw [update,List.map_cons,if_pos same.symm]
        rfl
      rw [head,others,List.map_cons,List.map_cons,List.sum_cons,List.sum_cons]
      change weight b + _ + weight a = weight a + _ + weight b
      omega
    · next different =>
      have kept := ih distinct found
      have head : update key (fun _ => b) ((name,value) :: rest) =
          (name,value) :: update key (fun _ => b) rest := by
        rw [update,List.map_cons,if_neg (Ne.symm different)]
        rfl
      rw [head,List.map_cons,List.map_cons,List.sum_cons,List.sum_cons]
      omega

end Keyed
