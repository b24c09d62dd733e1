import CertIssuer.Proofs.Endings

/-!
Two runs side by side: a plan in one world and a plan in another, the requests that they send to the
authority, and what their results and the worlds after them have to do with each other. Such pairs
are put together in the way plans are.
-/

namespace CertIssuer

variable {σ ω α β α' β' : Type}

/-- The accesses of a bound plan are those of its parts. -/
theorem Plan.accesses_bind (h : Plan.Handler σ ω) (p : Plan σ α) (f : α → Plan σ β) (w : ω) :
    (p.bind f).accesses h w
      = p.accesses h w ++ (f (p.run h w).1).accesses h (p.run h w).2 := by
  induction p generalizing w with
  | done a => rfl
  | ask op next ih =>
    rw [Plan.bind, accesses, accesses, List.append_assoc, ih]
    rfl

namespace World

/-- What the authority is asked to sign when a plan is run in a world. -/
def requestsOf (a : Authority σ ω) (p : Plan σ α) (w : World ω) : List SignRequest :=
  (w.callsOf a p).map SignCall.request

variable {a : Authority σ ω} {w v : World ω}

theorem requestsOf_bind (a : Authority σ ω) (p : Plan σ α) (f : α → Plan σ β) (w : World ω) :
    w.requestsOf a (p.bind f)
      = w.requestsOf a p ++ (w.run a p).2.requestsOf a (f (w.run a p).1) := by
  rw [requestsOf, callsOf, Plan.accesses_bind, calls, List.filterMap_append, List.map_append]
  rfl

/-- A run of `p` in `w` and one of `q` in `v` send the same requests to the authority, and they end
in results and worlds that are related. -/
structure Paired (a : Authority σ ω) (w v : World ω) (p : Plan σ α) (q : Plan σ α')
    (related : α × World ω → α' × World ω → Prop) : Prop where
  requests : v.requestsOf a q = w.requestsOf a p
  ends : related (w.run a p) (v.run a q)

variable {p : Plan σ α} {q : Plan σ α'} {related : α × World ω → α' × World ω → Prop}

theorem Paired.done {x : α} {y : α'} (h : related (x, w) (y, v)) :
    Paired a w v (.done x) (.done y) related := ⟨rfl, h⟩

/-- What goes on from related ends in related ways ends so. -/
theorem Paired.bind {f : α → Plan σ β} {g : α' → Plan σ β'}
    {after : β × World ω → β' × World ω → Prop} (h : Paired a w v p q related)
    (next : ∀ x y w' v', related (x, w') (y, v') → Paired a w' v' (f x) (g y) after) :
    Paired a w v (p.bind f) (q.bind g) after := by
  have rest := next (w.run a p).1 (v.run a q).1 (w.run a p).2 (v.run a q).2 h.ends
  refine ⟨?_, ?_⟩
  · rw [requestsOf_bind, requestsOf_bind, h.requests, rest.requests]
  · rw [run, run, Plan.run_bind, Plan.run_bind]
    exact rest.ends

end World
end CertIssuer
