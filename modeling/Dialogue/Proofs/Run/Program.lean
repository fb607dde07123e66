/-
Programs run against a world. Running one program after the other is running the first and then
the second on what it left; a program that asks for no write leaves the store as it was, and one that
warns of no edge the warnings of edges; and the warnings logged so far bear on nothing but the log of
warnings.
-/
import Dialogue.Run.Program

namespace Dialogue

/-- The world with one more warning in its log. -/
def World.warned (s : World) (w : Warning) : World :=
  { s with log := { s.log with warnings := s.log.warnings ++ [w] } }

namespace Program

variable {α β : Type} (p : Partners)

/-! ## Running -/

@[simp] theorem run_pure (a : α) (s : World) : (pure a : Program α).run p s = (a, s) := rfl

theorem run_ask (r : Request) (next : r.Answer → Program α) (s : World) :
    (ask r next).run p s = (next (s.answer p r).1).run p (s.answer p r).2 := rfl

@[simp] theorem run_bind (x : Program α) (f : α → Program β) (s : World) :
    (x >>= f).run p s = (f (x.run p s).1).run p (x.run p s).2 := by
  induction x generalizing s with
  | done a => rfl
  | ask r next ih => exact ih _ _

@[simp] theorem run_map (g : α → β) (x : Program α) (s : World) :
    (g <$> x).run p s = (g (x.run p s).1, (x.run p s).2) := by
  rw [map_eq_pure_bind, run_bind, run_pure]

@[simp] theorem run_request (r : Request) (s : World) : (request r).run p s = s.answer p r := rfl

@[simp] theorem run_warn (w : Warning) (s : World) : (warn w).run p s = ((), s.warned w) := rfl

@[simp] theorem run_tolerate (e : RunError) (s : World) :
    (tolerate e).run p s = ((), s.warned (.tolerated e)) := rfl

/-! ## What a program may ask for -/

/-- Every request that the program can come to satisfies `P`, whatever it was answered before. -/
def Asks (P : Request → Prop) : Program α → Prop
  | .done _ => True
  | .ask r next => P r ∧ ∀ x, (next x).Asks P

variable {P : Request → Prop}

theorem asks_pure (a : α) : (pure a : Program α).Asks P := trivial

theorem asks_request {r : Request} (h : P r) : (request r).Asks P := ⟨h, fun _ => trivial⟩

theorem asks_warn {w : Warning} (h : P (.warn w)) : (warn w).Asks P := ⟨h, fun _ => trivial⟩

theorem asks_bind {x : Program α} {f : α → Program β} (hx : x.Asks P) (hf : ∀ a, (f a).Asks P) :
    (x >>= f).Asks P := by
  induction x with
  | done a => exact hf a
  | ask r next ih => exact ⟨hx.1, fun y => ih y (hx.2 y)⟩

theorem asks_ite {b : Prop} [Decidable b] {x y : Program α} (hx : x.Asks P) (hy : y.Asks P) :
    (if b then x else y).Asks P := by
  split
  · exact hx
  · exact hy

end Program

theorem Program.Asks.mono {α : Type} {x : Program α} {P Q : Request → Prop} (h : x.Asks P)
    (hPQ : ∀ r, P r → Q r) : x.Asks Q := by
  induction x with
  | done a => trivial
  | ask r next ih => exact ⟨hPQ r h.1, fun y => ih y (h.2 y)⟩

theorem Program.asks_any {α : Type} (x : Program α) : x.Asks fun _ => True := by
  induction x with
  | done a => trivial
  | ask r next ih => exact ⟨trivial, ih⟩

/-- What relates a world to the one that answering a request leaves relates it to the one that a
program leaves, if it relates every world to itself and passes on. -/
theorem Program.run_relates {α : Type} {p : Partners} {P : Request → Prop} {R : World → World → Prop}
    (hrefl : ∀ s, R s s) (htrans : ∀ s t u, R s t → R t u → R s u)
    (hanswer : ∀ s r, P r → R s (s.answer p r).2) {x : Program α} (hx : x.Asks P) (s : World) :
    R s (x.run p s).2 := by
  induction x generalizing s with
  | done a => exact hrefl s
  | ask r next ih => exact htrans _ _ _ (hanswer s r hx.1) (ih _ (hx.2 _) _)

/-- A request that has nothing to do with the store. -/
def Request.Storeless : Request → Prop
  | .readState _ _ => False
  | .writeState _ _ _ _ => False
  | .dropState _ _ => False
  | _ => True

/-- A request that changes no store. -/
def Request.SparesStore : Request → Prop
  | .writeState _ _ _ _ => False
  | .dropState _ _ => False
  | _ => True

/-- A request to the store or to the log of warnings. -/
def Request.Internal : Request → Prop
  | .send _ | .classify _ | .respond _ => False
  | _ => True

theorem Request.Storeless.spares {r : Request} (h : r.Storeless) : r.SparesStore := by
  cases r with
  | readState t u => trivial
  | writeState t u state ttl => exact h.elim
  | dropState t u => exact h.elim
  | send text => trivial
  | classify prompt => trivial
  | respond call => trivial
  | warn w => trivial

/-- Every request has nothing to do with the store, or reads, writes or deletes there. -/
@[elab_as_elim]
theorem Request.store_cases {P : Request → Prop} (storeless : ∀ r, r.Storeless → P r)
    (read : ∀ t u, P (.readState t u)) (write : ∀ t u st ttl, P (.writeState t u st ttl))
    (drop : ∀ t u, P (.dropState t u)) (r : Request) : P r := by
  cases r with
  | readState t u => exact read t u
  | writeState t u st ttl => exact write t u st ttl
  | dropState t u => exact drop t u
  | send text => exact storeless _ trivial
  | classify prompt => exact storeless _ trivial
  | respond call => exact storeless _ trivial
  | warn w => exact storeless _ trivial

theorem World.answer_store (p : Partners) (s : World) {r : Request} (h : r.SparesStore) :
    (s.answer p r).2.store = s.store := by
  cases r with
  | readState t u => rfl
  | writeState t u state ttl => exact h.elim
  | dropState t u => exact h.elim
  | send text => simp only [answer]; split <;> rfl
  | classify prompt => simp only [answer]; split <;> rfl
  | respond call => simp only [answer]; split <;> rfl
  | warn w => rfl

/-- A program that writes and deletes nothing leaves the store as it was. -/
theorem Program.run_store {α : Type} (p : Partners) {x : Program α} (h : x.Asks Request.SparesStore)
    (s : World) : (x.run p s).2.store = s.store :=
  run_relates (R := fun s t => t.store = s.store) (fun _ => rfl) (fun _ _ _ h h' => h'.trans h)
    (fun s _ hr => World.answer_store p s hr) h s

/-! ## Warnings of edges -/

/-- Whether a warning is of an edge: that it leads to no node, or to one that was met before. -/
def Warning.ofEdge : Warning → Bool
  | .tolerated (.nodeReference _ _) => true
  | .tolerated (.cycleDetected _) => true
  | _ => false

/-- The warnings of edges. -/
def Log.edgeWarnings (l : Log) : List Warning :=
  l.warnings.filter (·.ofEdge)

/-- A request that is no warning of an edge. -/
def Request.OffEdge : Request → Prop
  | .warn w => w.ofEdge = false
  | _ => True

theorem World.edgeWarnings_warned (s : World) (w : Warning) :
    (s.warned w).log.edgeWarnings = s.log.edgeWarnings ++ if w.ofEdge then [w] else [] := by
  show (s.log.warnings ++ [w]).filter (·.ofEdge) = _
  rw [List.filter_append, List.filter_cons, List.filter_nil]
  rfl

theorem World.answer_edgeWarnings (p : Partners) (s : World) {r : Request} (h : r.OffEdge) :
    (s.answer p r).2.log.edgeWarnings = s.log.edgeWarnings := by
  cases r with
  | readState t u => rfl
  | writeState t u state ttl => rfl
  | dropState t u => rfl
  | send text => simp only [answer]; split <;> rfl
  | classify prompt => simp only [answer]; split <;> rfl
  | respond call => simp only [answer]; split <;> rfl
  | warn w =>
    have hw : w.ofEdge = false := h
    show (s.warned w).log.edgeWarnings = _
    rw [edgeWarnings_warned, hw]
    exact List.append_nil _

/-- A program that warns of no edge leaves the warnings of edges as they were. -/
theorem Program.run_edgeWarnings {α : Type} (p : Partners) {x : Program α}
    (h : x.Asks Request.OffEdge) (s : World) :
    (x.run p s).2.log.edgeWarnings = s.log.edgeWarnings :=
  run_relates (R := fun s t => t.log.edgeWarnings = s.log.edgeWarnings) (fun _ => rfl)
    (fun _ _ _ h h' => h'.trans h) (fun s _ hr => World.answer_edgeWarnings p s hr) h s

/-! ## Warnings do not count -/

/-- What was seen of a run, warnings aside. -/
def Log.muted (l : Log) : Log :=
  { l with warnings := [] }

/-- The world without its warnings. -/
def World.muted (s : World) : World :=
  { s with log := { s.log with warnings := [] } }

theorem World.store_of_muted {s t : World} (h : s.muted = t.muted) : s.store = t.store := by
  have : s.muted.store = t.muted.store := by rw [h]
  exact this

theorem World.sent_of_muted {s t : World} (h : s.muted = t.muted) : s.log.sent = t.log.sent := by
  have : s.muted.log.sent = t.muted.log.sent := by rw [h]
  exact this

theorem World.answer_muted (p : Partners) (s : World) (r : Request) :
    (s.muted.answer p r).1 = (s.answer p r).1 ∧
      (s.muted.answer p r).2.muted = (s.answer p r).2.muted := by
  cases r with
  | readState t u => exact ⟨rfl, rfl⟩
  | writeState t u state ttl => exact ⟨rfl, rfl⟩
  | dropState t u => exact ⟨rfl, rfl⟩
  | send text =>
    simp only [answer, muted]
    cases p.deliver s.log.sent text <;> exact ⟨rfl, rfl⟩
  | classify prompt =>
    simp only [answer]
    cases p.assistant <;> exact ⟨rfl, rfl⟩
  | respond call =>
    simp only [answer]
    cases p.assistant <;> exact ⟨rfl, rfl⟩
  | warn w => exact ⟨rfl, rfl⟩

/-- In worlds that differ only in their warnings a program gives the same result, and the worlds
it leaves again differ only in their warnings. -/
theorem Program.run_muted {α : Type} (p : Partners) (x : Program α) {s t : World}
    (h : s.muted = t.muted) :
    (x.run p s).1 = (x.run p t).1 ∧ (x.run p s).2.muted = (x.run p t).2.muted := by
  induction x generalizing s t with
  | done a => exact ⟨rfl, h⟩
  | ask r next ih =>
    obtain ⟨hs, hs'⟩ := World.answer_muted p s r
    obtain ⟨ht, ht'⟩ := World.answer_muted p t r
    rw [h] at hs hs'
    have ha : (s.answer p r).1 = (t.answer p r).1 := hs.symm.trans ht
    have hw : (s.answer p r).2.muted = (t.answer p r).2.muted := hs'.symm.trans ht'
    rw [run_ask, run_ask, ha]
    exact ih _ hw

end Dialogue
