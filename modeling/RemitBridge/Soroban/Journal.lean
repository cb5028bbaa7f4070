import RemitBridge.Soroban.Contract

/-!
# The journal of a contract

The journal of a run is the list of the events emitted, each with the time of its ledger.  That is
all a reader outside the chain gets to see.  A `Reader` keeps a view of the storage and applies
the journal to it, one event at a time, without looking at the storage again.  It follows the
contract if every invocation tells it what becomes of the view (`Reader.Follows`), and after any
run its view is then that of the storage (`Reader.replay_journal`).
-/

namespace RemitBridge

namespace Contract

open TransitionSystem

variable {S E ω C R ε V : Type} {K : Contract S E ω C R ε}

/-! ### The journal -/

/-- The time at the end of a run that starts at the time `now`. -/
def clockAfter (now : U64) (ls : List (Action ω C R E ε)) : U64 :=
  ls.foldl (fun t l => l.clock t) now

/-- The events of a run that starts at the time `now`, each with the time of its ledger. -/
def journal (now : U64) : List (Action ω C R E ε) → List (U64 × E)
  | [] => []
  | l :: ls => l.events.map (now, ·) ++ journal (l.clock now) ls

theorem clockAfter_concat (now : U64) (ls : List (Action ω C R E ε)) (l : Action ω C R E ε) :
    clockAfter now (ls ++ [l]) = l.clock (clockAfter now ls) := by
  simp [clockAfter]

theorem journal_append (now : U64) (ls ls' : List (Action ω C R E ε)) :
    journal now (ls ++ ls') = journal now ls ++ journal (clockAfter now ls) ls' := by
  induction ls generalizing now with
  | nil => rfl
  | cons l ls ih =>
    rw [List.cons_append, journal, journal, ih, List.append_assoc]
    rfl

theorem journal_concat (now : U64) (ls : List (Action ω C R E ε)) (l : Action ω C R E ε) :
    journal now (ls ++ [l]) = journal now ls ++ l.events.map (clockAfter now ls, ·) := by
  rw [journal_append, journal, journal, List.append_nil]

/-! ### Readers -/

/-- What a reader of the journal wants to know of the storage, and what it makes of an event;
`none` if the event does not fit what it knows. -/
structure Reader (S E V : Type) where
  view : S → V
  apply : V → U64 × E → Option V

namespace Reader

variable (D : Reader S E V)

/-- The view after a journal. -/
def replay (v : V) (journal : List (U64 × E)) : Option V := journal.foldlM D.apply v

variable {D} in
theorem replay_append {v v' : V} {journal journal' : List (U64 × E)}
    (h : D.replay v journal = some v') :
    D.replay v (journal ++ journal') = D.replay v' journal' := by
  rw [replay, List.foldlM_append, show journal.foldlM D.apply v = some v' from h]
  rfl

/-- The events that are emitted on the way from `w` to `w'`, in one ledger, tell the reader what
becomes of its view. -/
structure Told (w w' : World S E ω) : Prop where
  timestamp : w'.ledger.timestamp = w.ledger.timestamp
  events : ∃ es, w'.events = w.events ++ es ∧
    D.replay (D.view w.store) (es.map (w.ledger.timestamp, ·)) = some (D.view w'.store)

/-- Every successful invocation tells the reader what becomes of its view, and keeps the invariant
`I` of the storage. -/
def Follows (K : Contract S E ω C R ε) (I : S → Prop) : Prop :=
  ∀ w env c r w', I w.store → K.invoke env c w = .ok (r, w') → D.Told w w' ∧ I w'.store

section

variable {D} {w w' : World S E ω}

/-- Nothing is emitted, and the view stays. -/
theorem Told.silent (ht : w'.ledger.timestamp = w.ledger.timestamp) (he : w'.events = w.events)
    (hv : D.view w'.store = D.view w.store) : D.Told w w' := by
  refine ⟨ht, [], ?_, ?_⟩
  · rw [he, List.append_nil]
  · rw [hv]
    rfl

/-- One event is emitted, and it tells everything. -/
theorem Told.single {e : E} (ht : w'.ledger.timestamp = w.ledger.timestamp)
    (he : w'.events = w.events ++ [e])
    (hv : D.apply (D.view w.store) (w.ledger.timestamp, e) = some (D.view w'.store)) :
    D.Told w w' := by
  refine ⟨ht, [e], he, ?_⟩
  simp [replay, hv]

/-- What is told in two parts. -/
theorem Told.trans {w'' : World S E ω} (h : D.Told w w') (h' : D.Told w' w'') : D.Told w w'' := by
  obtain ⟨ht, es, he, hes⟩ := h
  obtain ⟨ht', es', he', hes'⟩ := h'
  refine ⟨ht'.trans ht, es ++ es', ?_, ?_⟩
  · rw [he', he, List.append_assoc]
  · rw [List.map_append, replay_append hes, ← ht, hes']

/-- A quiet step is no news, and an invocation is told. -/
theorem Follows.step {I : S → Prop} {l : Action ω C R E ε} (hD : D.Follows K I) (hw : I w.store)
    (h : K.lts.step w l w') : I w'.store ∧ w'.ledger.timestamp = l.clock w.ledger.timestamp ∧
      D.replay (D.view w.store) (l.events.map (w.ledger.timestamp, ·)) =
        some (D.view w'.store) := by
  have htime :=
    clock_of_step h fun env c r w' hinvoke => (hD w.clear env c r w' hw hinvoke).1.timestamp
  rcases events_of_step h with ⟨hstore, hevents⟩ | ⟨env, c, r, hevents, -, hinvoke⟩
  · refine ⟨hstore ▸ hw, htime, ?_⟩
    rw [hevents, hstore]
    rfl
  · obtain ⟨⟨-, es, hes, hreplay⟩, hw'⟩ := hD w.clear env c r w' hw hinvoke
    rw [World.clear_events, List.nil_append] at hes
    exact ⟨hw', htime, by rw [hevents, hes]; exact hreplay⟩

/-- **Replaying the journal.**  A reader that follows the contract ends with the view of the
storage that the run leaves. -/
theorem replay_journal {I : S → Prop} {w₀ : World S E ω} {ls : List (Action ω C R E ε)}
    (hD : D.Follows K I) (h₀ : I w₀.store) (h : K.lts.Run w₀ ls w) :
    D.replay (D.view w₀.store) (journal w₀.ledger.timestamp ls) = some (D.view w.store) := by
  suffices I w.store ∧ w.ledger.timestamp = clockAfter w₀.ledger.timestamp ls ∧
      D.replay (D.view w₀.store) (journal w₀.ledger.timestamp ls) = some (D.view w.store) from
    this.2.2
  induction h with
  | nil => exact ⟨h₀, rfl, rfl⟩
  | snoc _ hst ih =>
    obtain ⟨hw, htime, hreplay⟩ := ih
    obtain ⟨hw', htime', hreplay'⟩ := hD.step hw hst
    refine ⟨hw', by rw [htime', htime, clockAfter_concat], ?_⟩
    rw [journal_concat, replay_append hreplay, ← htime, hreplay']

end

end Reader

end Contract

end RemitBridge
