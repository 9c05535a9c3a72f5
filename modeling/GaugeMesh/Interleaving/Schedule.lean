import GaugeMesh.Interleaving.System

/-! Runs that are played out. An oracle answers every operation in one permitted way; a
schedule then determines a configuration, and that configuration is reachable. -/
namespace Interleaving

variable {σ Op Req Res : Type} {Ret : Op → Type}

structure Oracle (S : System σ Op Ret Req Res) where
  choose : Nat → (op : Op) → σ → Option (Ret op × σ)
  permitted : ∀ i op s reply s', choose i op s = some (reply,s') → S.act i op s reply s'

inductive Move (Req : Type) where
  | start (request : Req)
  | run (thread : Nat)

namespace Oracle

variable {S : System σ Op Ret Req Res} (oracle : Oracle S)

def move (c : Config σ Op Ret Req Res) : Move Req → Option (Config σ Op Ret Req Res)
  | .start request => some ⟨c.world.started request,c.threads ++ [some (S.body request)]⟩
  | .run i =>
    match c.threads[i]? with
    | some (some (.call op next)) => (oracle.choose i op c.world.state).map fun answer =>
      ⟨c.world.after i op answer.1 answer.2,c.threads.set i (some (next answer.1))⟩
    | _ => none

def play (c : Config σ Op Ret Req Res) : List (Move Req) → Option (Config σ Op Ret Req Res)
  | [] => some c
  | m :: rest => (oracle.move c m).bind fun d => play d rest

theorem move_step {c d : Config σ Op Ret Req Res} {m : Move Req} (moved : oracle.move c m = some d) :
    Step S c d := by
  cases m with
  | start request =>
    cases moved
    exact .start request
  | run i =>
    simp only [move] at moved
    split at moved
    · next op next active =>
      obtain ⟨⟨reply,s⟩,answered,rfl⟩ := Option.map_eq_some_iff.mp moved
      exact .run active (oracle.permitted i op _ reply s answered)
    · cases moved

theorem play_reachable {c d : Config σ Op Ret Req Res} {moves : List (Move Req)}
    (reachable : Reachable S c) (played : oracle.play c moves = some d) : Reachable S d := by
  induction moves generalizing c with
  | nil => cases played; exact reachable
  | cons m rest ih =>
    obtain ⟨e,moved,played⟩ := Option.bind_eq_some_iff.mp played
    exact ih (reachable.step (oracle.move_step moved)) played

end Oracle
end Interleaving
