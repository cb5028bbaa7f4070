import RemitBridge.Hook.Effects

/-!
# The daily ceiling

The hook keeps a volume for every sender, corridor and UTC day: the total of the amounts committed
on that day (`dailyVolume_eq`).  The ceiling holds for every such day, so a window of 86400 seconds,
which meets two of them, can hold twice as much and no more (`daily_ceiling`).
-/

namespace RemitBridge

namespace Hook

open Exec TransitionSystem

variable {ω : Type} {self : Address} {w₀ w w' : World ω} {l : Label ω} {ls : List (Label ω)}
  {now : U64} {sender : Address} {corridorId : Symbol} {day : U64}

/-! ### The commits of a run -/

/-- A successful commit, and when it was made. -/
structure Commit where
  time : U64
  sender : Address
  corridorId : Symbol
  amount : I128
  deriving DecidableEq

/-- The commit of a step made at the time `now`, if it is one. -/
def commitOf (now : U64) : Label ω → List Commit
  | .call _ (.commitTransfer sender amount corridorId) (.done ..) =>
    [⟨now, sender, corridorId, amount⟩]
  | _ => []

/-- The commits of a run that starts at the time `now`. -/
def commits (now : U64) : List (Label ω) → List Commit
  | [] => []
  | l :: ls => commitOf now l ++ commits (l.clock now) ls

/-- What the commits that satisfy `p` amount to. -/
def volumeOf (p : Commit → Prop) [DecidablePred p] (cs : List Commit) : ℤ :=
  (cs.map fun c => if p c then c.amount.val else 0).sum

/-- The commits of a sender in a corridor on a day. -/
def OnDay (sender : Address) (corridorId : Symbol) (day : U64) (c : Commit) : Prop :=
  c.sender = sender ∧ c.corridorId = corridorId ∧ dayOf c.time = day

/-- The commits of a sender in a corridor in the 86400 seconds up to `t`. -/
def InWindow (sender : Address) (corridorId : Symbol) (t : U64) (c : Commit) : Prop :=
  c.sender = sender ∧ c.corridorId = corridorId ∧
    t.val - secondsPerDay < c.time.val ∧ c.time ≤ t

instance : DecidablePred (OnDay sender corridorId day) := fun c => by
  unfold OnDay
  infer_instance

instance {t : U64} : DecidablePred (InWindow sender corridorId t) := fun c => by
  unfold InWindow
  infer_instance

theorem commits_concat : commits now (ls ++ [l]) =
    commits now ls ++ commitOf (ls.foldl (fun now l => l.clock now) now) l := by
  induction ls generalizing now with
  | nil => simp [commits]
  | cons l' ls ih => rw [List.cons_append, commits, ih, commits, List.append_assoc, List.foldl_cons]

theorem volumeOf_append {p : Commit → Prop} [DecidablePred p] (cs cs' : List Commit) :
    volumeOf p (cs ++ cs') = volumeOf p cs + volumeOf p cs' := by
  simp [volumeOf]

theorem commitOf_of_failed (h : l.succeeded = false) : commitOf now l = [] := by
  rcases l with ⟨_, c, _ | _⟩ | _ | _ | _
  · cases h
  · cases c <;> rfl
  · rfl
  · rfl
  · rfl

theorem timestamp_step (hw : WellFormed w.store) (h : (contract self).lts.step w l w') :
    w'.ledger.timestamp = l.clock w.ledger.timestamp :=
  Contract.clock_of_step h fun _ _ _ _ h => by
    rw [(invoke_writes (w := w.clear) hw h).1, World.clear_timestamp]

theorem timestamp_of_run (hw : WellFormed w₀.store) (h : (contract self).lts.Run w₀ ls w) :
    w.ledger.timestamp = ls.foldl (fun now l => l.clock now) w₀.ledger.timestamp := by
  induction h with
  | nil => rfl
  | snoc h hst ih => rw [timestamp_step (hw.run h) hst, ih, List.foldl_concat]

theorem commitOf_of_commits {env : Env} {c : Call} {ret : Ret} {ms : List TokenTransfer}
    {es : List Event} (h : c.commits = false) :
    commitOf (ω := ω) now (.call env c (.done ret ms es)) = [] := by
  cases c <;> first | rfl | cases h

theorem commits_of_administers {c : Call} (h : c.administers = true) : c.commits = false := by
  cases c <;> first | rfl | cases h

theorem dailyVolume_congr {s s' : Storage} (h : s'.volumes = s.volumes) :
    s'.dailyVolume sender corridorId day = s.dailyVolume sender corridorId day := by
  rw [Storage.dailyVolume, h, Storage.dailyVolume]

/-- A step adds its commit to the volume of the day. -/
theorem dailyVolume_step (hw : WellFormed w.store) (h : (contract self).lts.step w l w') :
    (w'.store.dailyVolume sender corridorId day).val =
      (w.store.dailyVolume sender corridorId day).val +
        volumeOf (OnDay sender corridorId day) (commitOf w.ledger.timestamp l) := by
  have hnothing : volumeOf (OnDay sender corridorId day) [] = 0 := rfl
  rcases step_cases hw h with hq | ⟨env, c, ret, ms, es, rfl, -, h⟩
  · rw [hq.store, commitOf_of_failed hq.succeeded, hnothing, add_zero]
  · have hother : c.commits = false → w'.store.volumes = w.store.volumes →
        (w'.store.dailyVolume sender corridorId day).val =
          (w.store.dailyVolume sender corridorId day).val + volumeOf (OnDay sender corridorId day)
            (commitOf w.ledger.timestamp (.call env c (.done ret ms es) : Label ω)) :=
            fun hc hv => by
      rw [commitOf_of_commits hc, hnothing, add_zero, dailyVolume_congr hv]
    cases h with
    | nothing hc _ _ hv => exact hother (commits_of_administers hc) hv
    | thresholds _ _ _ hv => exact hother rfl hv
    | publishes _ _ _ _ _ hv => exact hother rfl hv
    | revokes _ _ _ _ _ hv => exact hother rfl hv
    | @commits sender' amount total corridorId' thresholds _ _ htotal _ hv =>
      -- A commit writes the volume of its own sender, corridor and day.
      rw [Storage.dailyVolume, hv, Store.lookup_insert_ite, commitOf, volumeOf, List.map_singleton,
        List.sum_singleton]
      by_cases hkey : sender' = sender ∧ corridorId' = corridorId ∧ dayOf w.ledger.timestamp = day
      · obtain ⟨rfl, rfl, rfl⟩ := hkey
        rw [if_pos rfl, if_pos ⟨rfl, rfl, rfl⟩]
        exact htotal
      · have hother :
            ¬ OnDay sender corridorId day ⟨w.ledger.timestamp, sender', corridorId', amount⟩ :=
          hkey
        rw [if_neg fun he => hkey (by simpa [eq_comm] using he), if_neg hother, add_zero,
          Storage.dailyVolume]

/-- A run adds its commits to the volume of the day. -/
theorem dailyVolume_of_run (hw : WellFormed w₀.store) (h : (contract self).lts.Run w₀ ls w) :
    (w.store.dailyVolume sender corridorId day).val =
      (w₀.store.dailyVolume sender corridorId day).val +
        volumeOf (OnDay sender corridorId day) (commits w₀.ledger.timestamp ls) := by
  induction h with
  | nil => exact (add_zero _).symm
  | snoc h hst ih =>
    rw [dailyVolume_step (hw.run h) hst, ih, commits_concat, volumeOf_append,
      timestamp_of_run hw h, add_assoc]

/-- **The volume of a day** is the total of what was committed on it. -/
theorem dailyVolume_eq (h₀ : w₀.store = .blank) (h : (contract self).lts.Run w₀ ls w) :
    (w.store.dailyVolume sender corridorId day).val =
      volumeOf (OnDay sender corridorId day) (commits w₀.ledger.timestamp ls) := by
  have hzero : (w₀.store.dailyVolume sender corridorId day).val = 0 := by
    rw [h₀]
    rfl
  rw [dailyVolume_of_run (h₀ ▸ WellFormed.blank) h, hzero, zero_add]

theorem commits_positive (h₀ : w₀.store = .blank) (h : (contract self).lts.Run w₀ ls w) :
    ∀ c ∈ commits w₀.ledger.timestamp ls, 0 < c.amount.val := by
  induction h with
  | nil =>
    intro c hc
    cases hc
  | snoc h hst ih =>
    intro c hc
    rw [commits_concat] at hc
    rcases List.mem_append.1 hc with hc | hc
    · exact ih c hc
    · rcases step_cases (wellFormed_of_run h₀ h) hst with hq | ⟨env, c', ret, ms, es, rfl,
        -, hwrites⟩
      · rw [commitOf_of_failed hq.succeeded] at hc
        cases hc
      · cases hwrites with
        | nothing hadmin =>
          rw [commitOf_of_commits (commits_of_administers hadmin)] at hc
          cases hc
        | thresholds =>
          rw [commitOf_of_commits rfl] at hc
          cases hc
        | publishes =>
          rw [commitOf_of_commits rfl] at hc
          cases hc
        | revokes =>
          rw [commitOf_of_commits rfl] at hc
          cases hc
        | commits hpos =>
          obtain rfl := List.mem_singleton.1 hc
          exact hpos

/-! ### The ceiling -/

/-- The step does not set other thresholds for the corridor. -/
def SetsOnly (thresholds : TierThresholds) : Label ω → Prop
  | .call _ (.setTierThresholds thresholds') (.done ..) =>
    thresholds'.corridorId = thresholds.corridorId → thresholds' = thresholds
  | _ => True

/-- The corridor has these thresholds, if any, and no volume is above its limit. -/
structure Within (thresholds : TierThresholds) (s : Storage) : Prop where
  unchanged : ∀ thresholds', s.getThresholds thresholds.corridorId = some thresholds' →
    thresholds' = thresholds
  volumes : ∀ sender day, s.dailyVolume sender thresholds.corridorId day ≤ thresholds.dailyLimit

theorem unchanged_step {thresholds : TierThresholds} (hw : WellFormed w.store)
    (hc : ∀ thresholds', w.store.getThresholds thresholds.corridorId = some thresholds' →
      thresholds' = thresholds)
    (hl : SetsOnly thresholds l) (h : (contract self).lts.step w l w') : ∀ thresholds',
    w'.store.getThresholds thresholds.corridorId = some thresholds' → thresholds' = thresholds := by
  have hkeep : w'.store.thresholds = w.store.thresholds → ∀ thresholds',
      w'.store.getThresholds thresholds.corridorId = some thresholds' → thresholds' = thresholds :=
    fun ht thresholds' h => hc _ (by rwa [Storage.getThresholds, ht] at h)
  rcases step_cases hw h with hq | ⟨env, c, ret, ms, es, rfl, -, h⟩
  · exact hq.store ▸ hc
  · cases h with
    | nothing _ ht => exact hkeep ht
    | @thresholds thresholds' _ ht _ hv =>
      intro thresholds'' h
      rw [Storage.getThresholds, ht, Store.lookup_insert_ite] at h
      split_ifs at h with hid
      · exact Option.some.inj h ▸ hl hid.symm
      · exact hc _ h
    | publishes _ _ _ _ ht => exact hkeep ht
    | revokes _ _ _ _ ht => exact hkeep ht
    | commits _ _ _ _ _ ht => exact hkeep ht

theorem Within.step {thresholds : TierThresholds} (hw : WellFormed w.store)
    (hc : Within thresholds w.store) (hl : SetsOnly thresholds l)
    (h : (contract self).lts.step w l w') : Within thresholds w'.store := by
  refine ⟨unchanged_step hw hc.unchanged hl h, ?_⟩
  have hvolumes : w'.store.volumes = w.store.volumes → ∀ sender day,
      w'.store.dailyVolume sender thresholds.corridorId day ≤ thresholds.dailyLimit :=
    fun hv sender day => dailyVolume_congr hv ▸ hc.volumes sender day
  rcases step_cases hw h with hq | ⟨env, c, ret, ms, es, rfl, -, h⟩
  · exact hq.store ▸ hc.volumes
  · cases h with
    | nothing _ _ _ hv => exact hvolumes hv
    | thresholds _ _ _ hv => exact hvolumes hv
    | publishes _ _ _ _ _ hv => exact hvolumes hv
    | revokes _ _ _ _ _ hv => exact hvolumes hv
    | commits _ hthresholds _ hle hv =>
      intro sender day
      rw [Storage.dailyVolume, hv, Store.lookup_insert_ite]
      split_ifs with hkey
      · -- The hook compared with the limit of the thresholds in force.
        simp only [Prod.mk.injEq] at hkey
        obtain ⟨-, rfl, -⟩ := hkey
        rwa [← hc.unchanged _ hthresholds]
      · exact hc.volumes sender day

theorem dayOf_val (t : U64) : (dayOf t).val = t.val / secondsPerDay := rfl

/-- A window of a day's length meets two days. -/
theorem InWindow.onDay {t : U64} {c : Commit} (h : InWindow sender corridorId t c) :
    OnDay sender corridorId (dayOf t) c ∨
      ∃ yesterday : U64, yesterday.val = (dayOf t).val - 1 ∧
      OnDay sender corridorId yesterday c := by
  obtain ⟨hsender, hcorridor, hafter, hbefore⟩ := h
  have hle : c.time.val ≤ t.val := hbefore
  have hc := dayOf_val c.time
  have ht := dayOf_val t
  simp only [secondsPerDay] at *
  by_cases hsame : (dayOf c.time).val = (dayOf t).val
  · exact .inl ⟨hsender, hcorridor, MachineInt.ext hsame⟩
  · exact .inr ⟨dayOf c.time, by omega, hsender, hcorridor, rfl⟩

/-- What is committed in a window of a day's length was committed on the day it ends or on the
day before. -/
theorem volumeOf_window_le (sender : Address) (corridorId : Symbol) (t yesterday : U64)
    {cs : List Commit} (hcs : ∀ c ∈ cs, 0 < c.amount.val)
    (hyesterday : yesterday.val = max 0 ((dayOf t).val - 1)) :
    volumeOf (InWindow sender corridorId t) cs ≤ volumeOf (OnDay sender corridorId (dayOf t)) cs +
      volumeOf (OnDay sender corridorId yesterday) cs := by
  unfold volumeOf
  induction cs with
  | nil => exact le_rfl
  | cons c cs ih =>
    have hpos := hcs c (by simp)
    have hrest := ih fun c hc => hcs c (by simp [hc])
    simp only [List.map_cons, List.sum_cons]
    by_cases hwindow : InWindow sender corridorId t c
    · rcases hwindow.onDay with hday | ⟨day, hval, hday⟩
      · rw [if_pos hwindow, if_pos hday]
        split_ifs <;> omega
      · have hsame : yesterday = day := MachineInt.ext (by have := day.val_nonneg; omega)
        rw [if_pos hwindow, if_pos (hsame ▸ hday : OnDay sender corridorId yesterday c)]
        split_ifs <;> omega
    · rw [if_neg hwindow]
      split_ifs <;> omega

/-- **The daily ceiling.**  As long as the thresholds of a corridor are not changed, what a sender
commits in it on one UTC day is within its daily limit, and what it commits in any 86400 seconds is
within twice that. -/
theorem daily_ceiling (h₀ : w₀.store = .blank) (h : (contract self).lts.Run w₀ ls w)
    {thresholds : TierThresholds} (hls : ∀ l ∈ ls, SetsOnly thresholds l)
    (hthresholds : w.store.getThresholds thresholds.corridorId = some thresholds) :
    (∀ sender day, volumeOf (OnDay sender thresholds.corridorId day)
      (commits w₀.ledger.timestamp ls) ≤ thresholds.dailyLimit.val) ∧
    ∀ sender t, volumeOf (InWindow sender thresholds.corridorId t)
      (commits w₀.ledger.timestamp ls) ≤ 2 * thresholds.dailyLimit.val := by
  have hvalid := ((wellFormed_of_run h₀ h).thresholds _ _ hthresholds).2
  simp only [TierThresholds.isValid, decide_eq_true_eq] at hvalid
  have hstart : WellFormed w₀.store ∧ Within thresholds w₀.store := by
    rw [h₀]
    refine ⟨WellFormed.blank, ?_, fun sender day => hvalid.2.2.1.le⟩
    intro thresholds' h
    simp [Storage.getThresholds, Storage.blank] at h
  have hinv := (h.restrict_of_labels hls).invariant
    (I := fun w => WellFormed w.store ∧ Within thresholds w.store) hstart
    fun _ _ _ hs hst => ⟨hs.1.step hst.1, hs.2.step hs.1 hst.2 hst.1⟩
  have hday : ∀ sender day, volumeOf (OnDay sender thresholds.corridorId day)
      (commits w₀.ledger.timestamp ls) ≤ thresholds.dailyLimit.val := fun sender day => by
    rw [← dailyVolume_eq h₀ h]
    exact hinv.2.volumes sender day
  refine ⟨hday, ?_⟩
  intro sender t
  have hyesterday : 0 ≤ max 0 ((dayOf t).val - 1) ∧ max 0 ((dayOf t).val - 1) ≤ 2 ^ 64 - 1 := by
    have hle := (dayOf t).le_hi
    omega
  have hwindow := volumeOf_window_le sender thresholds.corridorId t ⟨_, hyesterday⟩
    (commits_positive h₀ h) rfl
  have htoday := hday sender (dayOf t)
  have hbefore := hday sender ⟨_, hyesterday⟩
  omega

/-! ### A window across midnight -/

namespace Sample

def admin : Address := ⟨1⟩

def escrow : Address := ⟨2⟩

def attester : Address := ⟨3⟩

def alice : Address := ⟨4⟩

/-- A limit of a thousand units, and identification from a hundred on. -/
def corridor : TierThresholds := ⟨⟨"SN-ML"⟩, 100, 1000, 1000⟩

/-- An invocation signed by `a`. -/
def signedBy (a : Address) : Env := ⟨fun b => decide (b = a), fun _ => true⟩

def blank : World Unit := ⟨.blank, ⟨1000, fun _ _ => 0, []⟩, [], ()⟩

def digest : BytesN 32 := ⟨List.replicate 32 1, rfl⟩

/-- The sender is identified. -/
def opening : List (Contract.Input Call) :=
  [.call (signedBy admin) (.initializeContract admin),
    .call (signedBy admin) (.setEscrow escrow),
    .call (signedBy admin) (.setOperator attester true),
    .call (signedBy admin) (.setTierThresholds corridor),
    .call (signedBy attester) (.publishAttestation attester alice .standard digest ⟨"WAEMU"⟩
      ⟨"mock"⟩ 1000000)]

/-- The whole limit is committed some minutes before midnight and again some minutes after. -/
def script : List (Contract.Input Call) :=
  opening ++ [.wait 86000, .call (signedBy escrow) (.commitTransfer alice 1000 corridor.corridorId),
    .wait 86500, .call (signedBy escrow) (.commitTransfer alice 1000 corridor.corridorId)]

def trace : List (Label Unit) := (contract ⟨0⟩).trace blank script

def final : World Unit := (contract ⟨0⟩).play blank script

theorem final_run : (contract ⟨0⟩).lts.Run blank trace final := Contract.play_run script rfl

theorem trace_setsOnly : ∀ l ∈ trace, SetsOnly corridor l :=
  List.forall_iff_forall_mem.1 ⟨trivial, trivial, trivial, fun _ => rfl, trivial, trivial, trivial,
    trivial, trivial⟩

end Sample

theorem daily_ceiling_sample :
    volumeOf (InWindow Sample.alice Sample.corridor.corridorId 86500)
      (commits 1000 Sample.trace) ≤ 2 * (1000 : I128).val :=
  (daily_ceiling rfl Sample.final_run Sample.trace_setsOnly (by decide)).2 Sample.alice 86500

/-- The thresholds never change, and the sender commits 2000 units within 500 seconds. -/
theorem not_rolling_ceiling_sample : Sample.blank.store = .blank ∧
    (contract ⟨0⟩).lts.Run Sample.blank Sample.trace Sample.final ∧
    (∀ l ∈ Sample.trace, SetsOnly Sample.corridor l) ∧
    Sample.final.store.getThresholds Sample.corridor.corridorId = some Sample.corridor ∧
    ¬ volumeOf (InWindow Sample.alice Sample.corridor.corridorId 86500)
      (commits Sample.blank.ledger.timestamp Sample.trace) ≤ Sample.corridor.dailyLimit.val :=
  ⟨rfl, Sample.final_run, Sample.trace_setsOnly, by decide, by decide⟩

end Hook

end RemitBridge
