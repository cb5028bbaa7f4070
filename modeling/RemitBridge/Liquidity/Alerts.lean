import RemitBridge.Liquidity.Capacity
import RemitBridge.Liquidity.Submissions

/-!
# Float alerts

`sweepRegion` evaluates the agents of a region and opens an alert for each that is short, unless one
of the kind is still unresolved.  The lookup and the creation are two queries, and nothing in the
database keeps two sweeps from both creating the alert.

There is never more than one as long as no alert is created while another sweep stands between its
own lookup and its creation, and a creation that comes in there leaves the other sweep free to
create the second one (`alerts_unique_iff`).  Sweeps that take turns never meet so
(`undisturbed_of_turns`).
-/

namespace RemitBridge

namespace Liquidity

open Backend Process TransitionSystem

open Indexer (parseInteger)

/-! ### Evaluating an agent -/

inductive AlertKind where
  | floatLow
  | collateralTight
  | poolUtilizationHigh
  deriving DecidableEq

def AlertKind.text : AlertKind → String
  | floatLow => "FLOAT_LOW"
  | collateralTight => "COLLATERAL_TIGHT"
  | poolUtilizationHigh => "POOL_UTILIZATION_HIGH"

structure LiquidityObservation extends Evaluation where
  agentId : String
  regionId : String
  bond : ℤ
  drawn : ℤ

/-- The threshold that an observation is below. -/
structure Breach where
  kind : AlertKind
  threshold : ℤ
  observed : ℤ

def classifyAlert (agentFloatAlertBps : ℤ) (observation : LiquidityObservation) : Option Breach :=
  if observation.collateralHeadroomBps < 1000 then
    some ⟨.collateralTight, 1000, observation.collateralHeadroomBps⟩
  else if observation.floatRatioBps < agentFloatAlertBps then
    some ⟨.floatLow, agentFloatAlertBps, observation.floatRatioBps⟩
  else none

/-! ### The table -/

/-- What the alerts of a table are told apart by. -/
structure AlertKey where
  agentId : String
  regionId : String
  kind : String
  deriving DecidableEq

def FloatAlert.key (alert : FloatAlert) : AlertKey := ⟨alert.agentId, alert.regionId, alert.kind⟩

/-- The alert is open or acknowledged. -/
def FloatAlert.unresolved (key : AlertKey) (alert : FloatAlert) : Bool :=
  decide (alert.key = key ∧ alert.status ≠ .resolved)

/-- The number of alerts that are open or acknowledged. -/
def unresolved (key : AlertKey) (alerts : List FloatAlert) : ℕ :=
  alerts.countP (FloatAlert.unresolved key)

/-- What a sweep reads of an agent. -/
structure MonitoredAgent where
  id : String
  regionId : String
  status : AgentStatus
  bondAmount : ℤ

/-- The data of a new alert. -/
structure AlertData extends AlertKey where
  thresholdBps : ℤ
  observedBps : ℤ
  deriving DecidableEq

def AlertData.row (data : AlertData) : FloatAlert where
  agentId := data.agentId
  regionId := data.regionId
  kind := data.kind
  status := .opened
  resolvedAt := none

inductive SweepQuery where
  /-- `prisma.agent.findMany`, with the exposure in the region -/
  | findAgents (regionId : String)
  /-- `prisma.agentFloatAlert.findFirst` -/
  | findUnresolved (key : AlertKey)
  /-- `prisma.agentFloatAlert.create` -/
  | createAlert (data : AlertData)

abbrev SweepAnswer : SweepQuery → Type
  | .findAgents _ => List (MonitoredAgent × Option ℤ)
  | .findUnresolved _ => Option FloatAlert
  | .createAlert _ => Unit

/-- The agents of a region that are authorized, each with what it has drawn. -/
def agentsIn (regionId : String) (r : Records) (agents : List MonitoredAgent) :
    List (MonitoredAgent × Option ℤ) :=
  (agents.filter fun agent => decide (agent.regionId = regionId ∧ agent.status = .authorized)).map
    fun agent => (agent, (r.exposures.lookup (agent.id, regionId)).bind parseInteger)

def SweepQuery.perform : (q : SweepQuery) → Records × List MonitoredAgent →
    Option (SweepAnswer q × (Records × List MonitoredAgent))
  | .findAgents regionId, (r, agents) => some (agentsIn regionId r agents, (r, agents))
  | .findUnresolved key, (r, agents) =>
    some (r.alerts.find? (FloatAlert.unresolved key), (r, agents))
  | .createAlert data, (r, agents) =>
    some ((), ({ r with alerts := r.alerts ++ [data.row] }, agents))

/-! ### Sweeps next to the service -/

abbrev MonitorCall := SweepQuery ⊕ ServiceCall

abbrev MonitorAnswer : MonitorCall → Type := Sum.elim SweepAnswer ServiceAnswer

abbrev Monitor (α : Type) := Process MonitorCall MonitorAnswer Failure α

structure MonitorSettings extends Settings where
  agentFloatAlertBps : ℤ

inductive MonitorCommand where
  | sweepRegion (regionId : String)
  | serve (c : Command)
  deriving DecidableEq

inductive MonitorOutcome where
  | swept (evaluated opened : ℕ)
  | served (outcome : Outcome)

abbrev MonitorLabel := Label MonitorCall MonitorAnswer Failure MonitorOutcome MonitorCommand

section Sweep

variable (sdk : Sdk) (env : MonitorSettings)

def askAgents (regionId : String) : Monitor (List (MonitoredAgent × Option ℤ)) :=
  ask (Sum.inl (SweepQuery.findAgents regionId) : MonitorCall)

def askUnresolved (key : AlertKey) : Monitor (Option FloatAlert) :=
  ask (Sum.inl (SweepQuery.findUnresolved key) : MonitorCall)

def createAlert (data : AlertData) : Monitor Unit :=
  ask (Sum.inl (SweepQuery.createAlert data) : MonitorCall)

/-- The loop of `sweepRegion`. -/
def sweepAgents (regionId : String) : List (MonitoredAgent × Option ℤ) → ℕ → Monitor ℕ
  | [], opened => pure opened
  | (agent, exposure) :: agents, opened => do
    let bond ← ofExcept (sdk.bigIntOfDecimal agent.bondAmount)
    let drawn ← ofExcept (exposure.elim (.ok 0) sdk.bigIntOfDecimal)
    let evaluation := evaluateAgent { bond, drawn, collateralRatioBps := 15000 }
    let observation := { evaluation with agentId := agent.id, regionId, bond, drawn }
    match classifyAlert env.agentFloatAlertBps observation with
    | none => sweepAgents regionId agents opened
    | some alert =>
      match ← askUnresolved ⟨agent.id, regionId, alert.kind.text⟩ with
      | some _ => sweepAgents regionId agents opened
      | none =>
        createAlert
          { agentId := agent.id
            regionId
            kind := alert.kind.text
            thresholdBps := alert.threshold
            observedBps := alert.observed }
        sweepAgents regionId agents (opened + 1)

def sweepRegion (regionId : String) : Monitor MonitorOutcome := do
  let agents ← askAgents regionId
  let opened ← sweepAgents sdk env regionId agents 0
  pure (.swept agents.length opened)

def monitorProgram : MonitorCommand → Monitor MonitorOutcome
  | .sweepRegion regionId => sweepRegion sdk env regionId
  | .serve c => do
    let outcome ← (program sdk env.toSettings c).lift
    pure (.served outcome)

end Sweep

/-- An operator may acknowledge an open alert. -/
def FloatAlert.Acknowledged (alert alert' : FloatAlert) : Prop :=
  alert' = alert ∨ alert.status = .opened ∧ alert' = { alert with status := .acknowledged }

abbrev MonitorWorld (N : Type) := (Records × List MonitoredAgent) × N

abbrev MonitorState (N : Type) :=
  State (MonitorWorld N) MonitorCall MonitorAnswer Failure MonitorOutcome MonitorCommand

variable {N : Type} {sdk : Sdk} {env : MonitorSettings}
  {net : Environment N RpcCall RpcAnswer Failure}

/-- Meanwhile alerts are acknowledged, and other tables change. -/
def monitorEnvironment (net : Environment N RpcCall RpcAnswer Failure) :
    Environment (MonitorWorld N) MonitorCall MonitorAnswer Failure where
  answers w q o w' := match q with
    | .inl q => (Environment.ofPerform SweepQuery.perform fun _ _ => False).answers w.1 q o w'.1 ∧
        w'.2 = w.2
    | .inr q => (environment net).answers (w.1.1, w.2) q o (w'.1.1, w'.2) ∧ w'.1.2 = w.1.2
  evolves w w' := List.Forall₂ FloatAlert.Acknowledged w.1.1.alerts w'.1.1.alerts

/-- Sweeps, decisions and executions run side by side, any number of each. -/
def monitor (sdk : Sdk) (env : MonitorSettings) (net : Environment N RpcCall RpcAnswer Failure) :
    TransitionSystem (MonitorState N) MonitorLabel :=
  lts (monitorEnvironment net) (monitorProgram sdk env)

def MonitorWorld.alerts (w : MonitorWorld N) : List FloatAlert := w.1.1.alerts

/-! ### Between the lookup and the creation -/

/-- The last thing that the process has done is to look for an alert of the kind, and it has found
none. -/
def Looked (key : AlertKey)
    (t : Thread MonitorCall MonitorAnswer Failure MonitorOutcome MonitorCommand) : Prop :=
  t.made.getLast? = some ⟨.inl (.findUnresolved key), .ok (none : Option FloatAlert)⟩

/-- An alert of the kind is created only while no other process is between its lookup and its
creation. -/
def Undisturbed (key : AlertKey) (s : MonitorState N) (l : MonitorLabel) (s' : MonitorState N) :
    Prop :=
  ∀ pid c data o, l = .call pid c (.inl (.createAlert data)) o → data.toAlertKey = key →
    s'.world.alerts ≠ s.world.alerts →
    ∀ pid' t, pid' ≠ pid → s.running pid' = some t → ¬ Looked key t

def Sweeping (s : MonitorState N) (pid : ℕ) : Prop :=
  ∃ t regionId, s.running pid = some t ∧ t.command = .sweepRegion regionId

/-- A sweep is started only when no other one is running. -/
def Turns (s : MonitorState N) (l : MonitorLabel) (_ : MonitorState N) : Prop :=
  ∀ pid regionId, l = .start pid (.sweepRegion regionId) → ∀ pid', ¬ Sweeping s pid'

/-! ### Stages of a sweep -/

inductive SweepStage where
  | looking
  /-- No alert of the kind has been found. -/
  | absent (key : AlertKey)

/-- Nobody else makes the queries of a sweep. -/
def SweepStage.next : MonitorCommand → SweepStage → (q : MonitorCall) →
    Except Failure (MonitorAnswer q) → Option SweepStage
  | .serve _, .looking, .inr _, _ => some .looking
  | .sweepRegion _, .looking, .inl (.findAgents _), _ => some .looking
  | .sweepRegion _, .looking, .inl (.findUnresolved key), o => match o with
    | .ok none => some (.absent key)
    | _ => some .looking
  | .sweepRegion _, .absent key, .inl (.createAlert data), _ =>
    if data.toAlertKey = key then some .looking else none
  | _, _, _, _ => none

/-- A process does not end between the lookup and the creation. -/
def sweepStaging :
    Staging MonitorCall MonitorAnswer Failure MonitorOutcome MonitorCommand SweepStage where
  start := .looking
  next := SweepStage.next
  ends _ φ _ := φ = .looking

theorem follows_sweepAgents {regionId : String} (agents : List (MonitoredAgent × Option ℤ))
    (opened : ℕ) : Follows (SweepStage.next (.sweepRegion regionId)) (fun φ _ => φ = .looking)
      .looking (sweepAgents sdk env regionId agents opened) := by
  induction agents generalizing opened with
  | nil => exact .pure rfl
  | cons observed agents ih =>
    obtain ⟨agent, exposure⟩ := observed
    rw [sweepAgents]
    refine .bind (E := fun φ _ => φ = .looking) (.ofExcept rfl) ?_ fun _ _ h => h
    rintro _ bond rfl
    refine .bind (E := fun φ _ => φ = .looking) (.ofExcept rfl) ?_ fun _ _ h => h
    rintro _ drawn rfl
    dsimp only
    split
    · exact ih opened
    · next alert _ =>
      refine .ask_bind (fun existing => ?_) fun e => ⟨.looking, rfl, rfl⟩
      cases existing with
      | some existing => exact ⟨.looking, rfl, ih opened⟩
      | none =>
        refine ⟨.absent _, rfl, .ask_bind (fun _ => ⟨.looking, if_pos rfl, ih (opened + 1)⟩)
          fun e => ⟨.looking, if_pos rfl, rfl⟩⟩

theorem stages_monitorProgram : Stages (monitorProgram sdk env) sweepStaging := by
  intro c
  cases c with
  | sweepRegion regionId =>
    refine .ask_bind (fun agents => ⟨.looking, rfl, ?_⟩) fun e => ⟨.looking, rfl, rfl⟩
    refine .bind (follows_sweepAgents agents 0) ?_ fun _ _ h => h
    rintro _ opened rfl
    exact Follows.pure rfl
  | serve c =>
    show Follows _ _ _ ((program sdk env.toSettings c).lift >>= _)
    refine .bind (E := fun φ _ => φ = SweepStage.looking)
      (.lift (f := fun _ => SweepStage.looking) (.any _)
      (fun _ _ _ _ _ => rfl) fun _ _ _ => rfl) ?_ fun _ _ h => h
    rintro _ outcome rfl
    exact Follows.pure rfl

/-! ### How many alerts are unresolved -/

section Count

variable {key : AlertKey} {alerts alerts' : List FloatAlert} {r r' : Records} {data : AlertData}

theorem AlertData.unresolved_row :
    FloatAlert.unresolved key data.row = decide (data.toAlertKey = key) := by
  simp [FloatAlert.unresolved, AlertData.row, FloatAlert.key]

theorem unresolved_row (h : data.toAlertKey = key) :
    unresolved key (alerts ++ [data.row]) = unresolved key alerts + 1 := by
  simp [unresolved, AlertData.unresolved_row, h]

theorem unresolved_row_of_ne (h : data.toAlertKey ≠ key) :
    unresolved key (alerts ++ [data.row]) = unresolved key alerts := by
  simp [unresolved, AlertData.unresolved_row, h]

theorem unresolved_of_acknowledged (h : List.Forall₂ FloatAlert.Acknowledged alerts alerts') :
    unresolved key alerts' = unresolved key alerts := by
  induction h with
  | nil => rfl
  | cons hacknowledged _ ih =>
    rw [unresolved, unresolved, List.countP_cons, List.countP_cons, ← unresolved, ← unresolved, ih]
    rcases hacknowledged with rfl | ⟨hopened, rfl⟩
    · rfl
    · simp [FloatAlert.unresolved, FloatAlert.key, hopened]

theorem unresolved_resolveAlerts_le {agentId regionId : String} {now : ℕ} :
    unresolved key (r.resolveAlerts agentId regionId now).alerts ≤ unresolved key r.alerts := by
  rw [Records.resolveAlerts, unresolved, List.countP_map]
  refine List.countP_mono_left fun alert _ hcounted => ?_
  rw [Function.comp_apply] at hcounted
  split_ifs at hcounted
  · simp [FloatAlert.unresolved] at hcounted
  · exact hcounted

theorem unresolved_statement_le {statement : Statement} (h : statement.perform r = some r') :
    unresolved key r'.alerts ≤ unresolved key r.alerts := by
  cases statement with
  | updateTopUp id data =>
    obtain ⟨⟨request, r''⟩, hupdate, rfl⟩ := Option.map_eq_some_iff.1 h
    obtain ⟨old, -, heq⟩ := Option.map_eq_some_iff.1 hupdate
    cases heq
    exact le_rfl
  | incrementExposure agentId regionId amount =>
    obtain ⟨n, -, rfl⟩ := Option.map_eq_some_iff.1 h
    exact le_rfl
  | resolveAlerts agentId regionId now =>
    obtain rfl := Option.some.inj h
    exact unresolved_resolveAlerts_le

theorem unresolved_statements_le {statements : List Statement}
    (h : statements.foldlM (fun r (statement : Statement) => statement.perform r) r = some r') :
    unresolved key r'.alerts ≤ unresolved key r.alerts := by
  induction statements generalizing r with
  | nil =>
    obtain rfl := Option.some.inj h
    exact le_rfl
  | cons statement statements ih =>
    obtain ⟨r₁, hstatement, hrest⟩ := Option.bind_eq_some_iff.1 h
    exact (ih hrest).trans (unresolved_statement_le hstatement)

/-- The service opens no alerts. -/
theorem unresolved_query_le {q : Query} {a : QueryAnswer q} (h : q.perform r = some (a, r')) :
    unresolved key r'.alerts ≤ unresolved key r.alerts := by
  cases q with
  | findTopUp id =>
    obtain ⟨rfl, -⟩ := findTopUp_ok h
    exact le_rfl
  | updateTopUp id data =>
    obtain ⟨old, -, heq⟩ := Option.map_eq_some_iff.1 h
    cases heq
    exact le_rfl
  | transaction statements =>
    obtain ⟨r'', hstatements, heq⟩ := Option.map_eq_some_iff.1 h
    cases heq
    exact unresolved_statements_le hstatements

end Count

/-! ### Steps -/

section Steps

variable {key : AlertKey} {s s' : MonitorState N} {l : MonitorLabel} {w w' : MonitorWorld N}

theorem unresolved_service_le {q : ServiceCall} {o : Except Failure (ServiceAnswer q)}
    (h : (monitorEnvironment net).answers w (.inr q) o w') :
    unresolved key w'.alerts ≤ unresolved key w.alerts := by
  obtain ⟨h, -⟩ := h
  cases q with
  | inl q =>
    obtain ⟨h, -⟩ := h
    cases o with
    | ok a => exact unresolved_query_le h
    | error e =>
      rcases h with hsame | ⟨a, h⟩
      · exact (congrArg (fun r : Records => unresolved key r.alerts) hsame).le
      · exact unresolved_query_le h
  | inr q =>
    obtain ⟨-, hsame⟩ := h
    exact (congrArg (fun r : Records => unresolved key r.alerts) hsame).le

/-- A query of a sweep that changes something is a creation that takes effect. -/
theorem creates_of_answers {q : SweepQuery} {o : Except Failure (SweepAnswer q)}
    (h : (monitorEnvironment net).answers w (.inl q) o w') :
    w'.alerts = w.alerts ∨ ∃ data, q = .createAlert data ∧ w'.alerts = w.alerts ++ [data.row] := by
  obtain ⟨h, -⟩ := h
  obtain hsame | ⟨a, hperform⟩ : w'.1 = w.1 ∨ ∃ a, q.perform w.1 = some (a, w'.1) := by
    cases o with
    | ok a => exact .inr ⟨a, h⟩
    | error e => exact h
  · exact .inl (congrArg (fun tables => tables.1.alerts) hsame)
  · cases q with
    | findAgents regionId =>
      obtain ⟨-, hsame⟩ := Prod.mk.inj (Option.some.inj hperform)
      exact .inl (congrArg (fun tables => tables.1.alerts) hsame.symm)
    | findUnresolved key =>
      obtain ⟨-, hsame⟩ := Prod.mk.inj (Option.some.inj hperform)
      exact .inl (congrArg (fun tables => tables.1.alerts) hsame.symm)
    | createAlert data =>
      obtain ⟨-, hsame⟩ := Prod.mk.inj (Option.some.inj hperform)
      exact .inr ⟨data, rfl, congrArg (fun tables => tables.1.alerts) hsame.symm⟩

/-- A step creates an alert of the kind, or opens none. -/
theorem step_cases (key : AlertKey) (hst : (monitor sdk env net).step s l s') :
    (∃ pid c data o, l = .call pid c (.inl (.createAlert data)) o ∧ data.toAlertKey = key ∧
      s'.world.alerts = s.world.alerts ++ [data.row]) ∨
    unresolved key s'.world.alerts ≤ unresolved key s.world.alerts ∧
      ∀ pid c data o, l = .call pid c (.inl (.createAlert data)) o → data.toAlertKey = key →
        s'.world.alerts = s.world.alerts := by
  cases hst with
  | start => exact .inr ⟨le_rfl, fun _ _ _ _ hl => nomatch hl⟩
  | @call pid c made q rest o w' _ hanswers =>
    cases q with
    | inl q =>
      rcases creates_of_answers hanswers with hsame | ⟨data, rfl, hcreated⟩
      · exact .inr ⟨(congrArg (unresolved key) hsame).le, fun _ _ _ _ _ _ => hsame⟩
      · by_cases hkey : data.toAlertKey = key
        · exact .inl ⟨pid, c, data, o, rfl, hkey, hcreated⟩
        · refine .inr ⟨?_, fun pid' c' data' o' hl hkey' => ?_⟩
          -- An alert of another kind.
          · exact (congrArg (unresolved key) hcreated).trans (unresolved_row_of_ne hkey) |>.le
          · cases hl
            exact absurd hkey' hkey
    | inr q => exact .inr ⟨unresolved_service_le hanswers, fun _ _ _ _ hl => nomatch hl⟩
  | finish => exact .inr ⟨le_rfl, fun _ _ _ _ hl => nomatch hl⟩
  | stop => exact .inr ⟨le_rfl, fun _ _ _ _ hl => nomatch hl⟩
  | evolve hevolves =>
    exact .inr ⟨(unresolved_of_acknowledged hevolves).le, fun _ _ _ _ hl => nomatch hl⟩

/-- A lookup that finds none is right. -/
theorem unresolved_of_lookup (h : (monitorEnvironment net).answers w (.inl (.findUnresolved key))
    (.ok (none : Option FloatAlert)) w') : unresolved key w'.alerts = 0 := by
  obtain ⟨hnone, htables⟩ := Prod.mk.inj (Option.some.inj h.1)
  rw [MonitorWorld.alerts, ← htables, unresolved, List.countP_eq_zero]
  exact List.find?_eq_none.1 hnone

end Steps

/-! ### Sweeps between the lookup and the creation -/

section Stages

variable {key : AlertKey} {c : MonitorCommand} {φ ψ : SweepStage} {q : MonitorCall}
  {o : Except Failure (MonitorAnswer q)} {s : MonitorState N}

/-- After a lookup that has found none comes the creation. -/
theorem next_absent (h : SweepStage.next c (.absent key) q o = some ψ) :
    (∃ data, q = .inl (.createAlert data) ∧ data.toAlertKey = key) ∧
      (∃ regionId, c = .sweepRegion regionId) ∧ ψ = .looking := by
  rcases c with regionId | c
  · rcases q with (regionId' | key' | data) | q
    · cases h
    · cases h
    · change (if data.toAlertKey = key then _ else _) = _ at h
      split_ifs at h with hkey
      cases h
      exact ⟨⟨data, rfl, hkey⟩, ⟨regionId, rfl⟩, rfl⟩
    · cases h
  · rcases q with (regionId' | key' | data) | q <;> cases h

/-- A creation comes after a lookup only. -/
theorem absent_of_next {data : AlertData}
    {o : Except Failure (MonitorAnswer (.inl (.createAlert data)))}
    (h : SweepStage.next c φ (.inl (.createAlert data)) o = some ψ) :
    φ = .absent data.toAlertKey := by
  cases φ with
  | looking => cases c <;> cases h
  | absent key =>
    obtain ⟨⟨data', hdata, rfl⟩, -⟩ := next_absent h
    cases hdata
    rfl

theorem absent_iff_of_next (h : SweepStage.next c φ q o = some ψ) : ψ = .absent key ↔
    (⟨q, o⟩ : Exchange MonitorCall MonitorAnswer Failure) =
      ⟨.inl (.findUnresolved key), .ok (none : Option FloatAlert)⟩ := by
  cases φ with
  | absent key' =>
    obtain ⟨⟨data, rfl, -⟩, -, rfl⟩ := next_absent h
    constructor
    · intro heq
      cases heq
    · intro heq
      cases heq
  | looking =>
    constructor
    · rintro rfl
      rcases c with regionId | c <;> rcases q with (regionId' | key' | data) | q
      case sweepRegion.inl.findUnresolved =>
        rcases o with e | _ | alert <;> cases h
        rfl
      all_goals cases h
    · intro heq
      cases heq
      cases c <;> cases h
      rfl

theorem absent_iff_looked
    {t : Thread MonitorCall MonitorAnswer Failure MonitorOutcome MonitorCommand}
    (h : sweepStaging.after t.command t.made = some φ) : φ = .absent key ↔ Looked key t := by
  refine Staging.after_induction (S := sweepStaging) (c := t.command)
    (I := fun made φ => φ = .absent key ↔ made.getLast? =
      some ⟨.inl (.findUnresolved key), .ok (none : Option FloatAlert)⟩) ?_ ?_ h
  · constructor
    · intro h
      cases h
    · intro h
      cases h
  · intro made φ q o ψ _ hnext
    rw [List.getLast?_append_of_ne_nil _ (List.cons_ne_nil _ _), List.getLast?_singleton,
      Option.some.injEq]
    exact absent_iff_of_next hnext

/-- Only a sweep creates an alert, and only after it has found none. -/
theorem looked_of_creation {pid : ℕ} {data : AlertData} {made : List (Exchange _ _ _)}
    {rest : Except Failure Unit → Monitor MonitorOutcome} (h : Disciplined sweepStaging s)
    (hrunning : s.running pid = some ⟨c, made, .call (.inl (.createAlert data)) rest⟩) :
    Looked data.toAlertKey ⟨c, made, .call (.inl (.createAlert data)) rest⟩ ∧
      ∃ regionId, c = .sweepRegion regionId := by
  obtain ⟨φ, hφ, hfollows⟩ := h pid _ hrunning
  obtain ⟨ψ, hnext, -⟩ := hfollows (.ok ())
  obtain rfl := absent_of_next hnext
  exact ⟨(absent_iff_looked hφ).1 rfl, (next_absent hnext).2.1⟩

/-- A sweep that has found none creates an alert. -/
theorem creation_of_looked {pid : ℕ}
    {t : Thread MonitorCall MonitorAnswer Failure MonitorOutcome MonitorCommand}
    (h : Disciplined sweepStaging s) (hrunning : s.running pid = some t) (hlooked : Looked key t) :
    (∃ data rest, t.rest = .call (.inl (.createAlert data)) rest ∧ data.toAlertKey = key) ∧
      ∃ regionId, t.command = .sweepRegion regionId := by
  obtain ⟨φ, hφ, hfollows⟩ := h pid t hrunning
  -- Its stage allows nothing but the creation.
  obtain rfl := (absent_iff_looked hφ).2 hlooked
  obtain ⟨c, made, rest⟩ := t
  cases rest with
  | done outcome => cases hfollows
  | fail e => cases hfollows
  | call q rest =>
    obtain ⟨ψ, hnext, -⟩ := hfollows (.error (.error "stopped"))
    obtain ⟨⟨data, rfl, hkey⟩, hsweep, -⟩ := next_absent hnext
    exact ⟨⟨data, rest, rfl, hkey⟩, hsweep⟩

end Stages

/-! ### When alerts are unique -/

/-- What holds as long as no sweep is disturbed. -/
structure Watched (key : AlertKey) (s : MonitorState N) : Prop where
  disciplined : Disciplined sweepStaging s
  atMostOne : unresolved key s.world.alerts ≤ 1
  /-- What a sweep has not found is not there. -/
  looked : ∀ pid t, s.running pid = some t → Looked key t → unresolved key s.world.alerts = 0

section Watched

variable {key : AlertKey} {s₀ s s' : MonitorState N} {l : MonitorLabel}

theorem Watched.of_idle (h₀ : s₀.Idle) (hone : unresolved key s₀.world.alerts ≤ 1) :
    Watched key s₀ where
  disciplined := .of_idle h₀
  atMostOne := hone
  looked pid t ht := by
    rw [h₀ pid] at ht
    cases ht

/-- The sweep that creates an alert has found none. -/
theorem Watched.atMostOne_step (h : Watched key s) (hst : (monitor sdk env net).step s l s') :
    unresolved key s'.world.alerts ≤ 1 := by
  rcases step_cases key hst with ⟨pid, c, data, o, rfl, rfl, hcreated⟩ | ⟨hle, -⟩
  · cases hst with
    | call hrunning hanswers =>
      have hlooked := (looked_of_creation h.disciplined hrunning).1
      rw [hcreated, unresolved_row rfl, h.looked pid _ hrunning hlooked]
  · exact hle.trans h.atMostOne

theorem Watched.step (h : Watched key s) (hst : (monitor sdk env net).step s l s')
    (hundisturbed : Undisturbed key s l s') : Watched key s' where
  disciplined := h.disciplined.step stages_monitorProgram hst
  atMostOne := h.atMostOne_step hst
  looked pid t ht hlooked := by
    -- A process that has looked before is left alone.
    have hbefore : s.running pid = some t → (∀ c q o, l ≠ .call pid c q o) →
        unresolved key s'.world.alerts = 0 := by
      intro hrunning hother
      have hzero := h.looked pid t hrunning hlooked
      rcases step_cases key hst with ⟨pid', c, data, o, rfl, hkey, hcreated⟩ | ⟨hle, -⟩
      · have hne : pid ≠ pid' := by
          rintro rfl
          exact hother _ _ _ rfl
        exact absurd hlooked (hundisturbed pid' c data o rfl hkey (by simp [hcreated]) pid t hne
          hrunning)
      · omega
    cases hst with
    | @start pid' c hnone =>
      rcases update_cases ht with ⟨-, hnew⟩ | ⟨-, hold⟩
      · cases hnew
        cases hlooked
      · exact hbefore hold fun _ _ _ heq => nomatch heq
    | @call pid' c made q rest o w hrunning hanswers =>
      rcases update_cases ht with ⟨rfl, hnew⟩ | ⟨hne, hold⟩
      · cases hnew
        rw [Looked, List.getLast?_append_of_ne_nil _ (List.cons_ne_nil _ _),
          List.getLast?_singleton] at hlooked
        cases hlooked
        -- The lookup has just been answered.
        exact unresolved_of_lookup hanswers
      · exact hbefore hold fun _ _ _ heq => hne (Label.call.inj heq).1.symm
    | finish | stop =>
      rcases update_cases ht with ⟨-, hnew⟩ | ⟨-, hold⟩
      · cases hnew
      · exact hbefore hold fun _ _ _ heq => nomatch heq
    | evolve => exact hbefore ht fun _ _ _ heq => nomatch heq

theorem Watched.of_reachable (h₀ : s₀.Idle) (hone : unresolved key s₀.world.alerts ≤ 1)
    (h : ((monitor sdk env net).restrict (Undisturbed key)).Reachable s₀ s) : Watched key s :=
  h.invariant (.of_idle h₀ hone) fun _ _ _ hs hst => hs.step hst.1 hst.2

/-- A sweep that has found none can create an alert, whatever is there by now. -/
theorem creates_of_looked {pid : ℕ}
    {t : Thread MonitorCall MonitorAnswer Failure MonitorOutcome MonitorCommand}
    (h : Disciplined sweepStaging s) (hrunning : s.running pid = some t) (hlooked : Looked key t) :
    ∃ l s', (monitor sdk env net).step s l s' ∧
      unresolved key s'.world.alerts = unresolved key s.world.alerts + 1 := by
  obtain ⟨⟨data, rest, hrest, hkey⟩, -⟩ := creation_of_looked h hrunning hlooked
  obtain ⟨c, made, rest'⟩ := t
  subst hrest
  have hanswers : (monitorEnvironment net).answers s.world (.inl (.createAlert data)) (.ok ())
      (({ s.world.1.1 with alerts := s.world.1.1.alerts ++ [data.row] }, s.world.1.2), s.world.2) :=
    ⟨rfl, rfl⟩
  exact ⟨_, _, .call hrunning hanswers, unresolved_row hkey⟩

end Watched

/-- **Alerts are unique** as long as none is created while another sweep stands between its lookup
and its creation.  A step that does create one there makes room for a second one. -/
theorem alerts_unique_iff {key : AlertKey} {s₀ s : MonitorState N} (h₀ : s₀.Idle)
    (hone : unresolved key s₀.world.alerts ≤ 1)
    (h : ((monitor sdk env net).restrict (Undisturbed key)).Reachable s₀ s) :
    unresolved key s.world.alerts ≤ 1 ∧ ∀ l s', (monitor sdk env net).step s l s' →
      (Undisturbed key s l s' ↔ ∀ l' s'', (monitor sdk env net).step s' l' s'' →
        unresolved key s''.world.alerts ≤ 1) := by
  have hs := Watched.of_reachable h₀ hone h
  refine ⟨hs.atMostOne, fun l s' hst => ⟨fun hundisturbed l' s'' hst' => ?_, fun hnext => ?_⟩⟩
  · exact (hs.step hst hundisturbed).atMostOne_step hst'
  · intro pid c data o hl hkey hchanged pid' t hne hrunning hlooked
    have hcount : 0 < unresolved key s'.world.alerts := by
      -- The creation has taken effect, so that one alert is there.
      rcases step_cases key hst with ⟨-, -, data', -, -, hkey', hcreated⟩ | ⟨-, hsame⟩
      · rw [hcreated, unresolved_row hkey']
        exact Nat.succ_pos _
      · exact absurd (hsame pid c data o hl hkey) hchanged
    -- The other sweep has not noticed.
    have hrunning' : s'.running pid' = some t := by
      subst hl
      cases hst with
      | call => exact (Function.update_of_ne hne _ _).trans hrunning
    -- So it creates a second one.
    have hs' := hs.disciplined.step stages_monitorProgram hst
    obtain ⟨l', s'', hst', hcount'⟩ : ∃ l' s'', (monitor sdk env net).step s' l' s'' ∧
        unresolved key s''.world.alerts = unresolved key s'.world.alerts + 1 :=
      creates_of_looked hs' hrunning' hlooked
    have hone' := hnext l' s'' hst'
    omega

section Turns

variable {key : AlertKey} {s₀ s s' : MonitorState N} {l : MonitorLabel} {ls : List MonitorLabel}

theorem sweeping_of_step {pid : ℕ} (hst : (monitor sdk env net).step s l s')
    (h : Sweeping s' pid) :
    Sweeping s pid ∨ ∃ regionId, l = .start pid (.sweepRegion regionId) := by
  obtain ⟨t, regionId, ht, hsweep⟩ := h
  cases hst with
  | start =>
    rcases update_cases ht with ⟨rfl, hnew⟩ | ⟨-, hold⟩
    · cases hnew
      exact .inr ⟨regionId, congrArg (Label.start pid) hsweep⟩
    · exact .inl ⟨t, regionId, hold, hsweep⟩
  | call hrunning =>
    rcases update_cases ht with ⟨rfl, hnew⟩ | ⟨-, hold⟩
    · cases hnew
      exact .inl ⟨_, regionId, hrunning, hsweep⟩
    · exact .inl ⟨t, regionId, hold, hsweep⟩
  | finish | stop =>
    rcases update_cases ht with ⟨-, hnew⟩ | ⟨-, hold⟩
    · cases hnew
    · exact .inl ⟨t, regionId, hold, hsweep⟩
  | evolve => exact .inl ⟨t, regionId, ht, hsweep⟩

/-- At most one sweep is running, and it is between two of its calls. -/
structure Orderly (s : MonitorState N) : Prop where
  disciplined : Disciplined sweepStaging s
  alone : ∀ pid pid', Sweeping s pid → Sweeping s pid' → pid' = pid

theorem Orderly.step (h : Orderly s) (hst : ((monitor sdk env net).restrict Turns).step s l s') :
    Orderly s' where
  disciplined := h.disciplined.step stages_monitorProgram hst.1
  alone pid pid' hpid hpid' := by
    rcases sweeping_of_step hst.1 hpid with hold | ⟨regionId, rfl⟩
    · rcases sweeping_of_step hst.1 hpid' with hold' | ⟨regionId', rfl⟩
      · exact h.alone pid pid' hold hold'
      · exact absurd hold (hst.2 pid' regionId' rfl pid)
    · rcases sweeping_of_step hst.1 hpid' with hold' | ⟨regionId', heq⟩
      · exact absurd hold' (hst.2 pid regionId rfl pid')
      · exact (Label.start.inj heq).1.symm

theorem Orderly.undisturbed (h : Orderly s) (hst : (monitor sdk env net).step s l s') :
    Undisturbed key s l s' := by
  rintro pid c data o rfl - - pid' t hne hrunning hlooked
  cases hst with
  | call hcreation =>
    obtain ⟨regionId, hsweep⟩ := (looked_of_creation h.disciplined hcreation).2
    obtain ⟨regionId', hsweep'⟩ := (creation_of_looked h.disciplined hrunning hlooked).2
    exact hne (h.alone pid pid' ⟨_, regionId, hcreation, hsweep⟩ ⟨t, regionId', hrunning, hsweep'⟩)

/-- **Sweeps that take turns** are not disturbed. -/
theorem undisturbed_of_turns (h₀ : s₀.Idle)
    (h : ((monitor sdk env net).restrict Turns).Run s₀ ls s) :
    ((monitor sdk env net).restrict (Undisturbed key)).Run s₀ ls s := by
  have hidle : Orderly s₀ := by
    refine ⟨.of_idle h₀, ?_⟩
    rintro pid pid' ⟨t, -, ht, -⟩
    rw [h₀ pid] at ht
    cases ht
  have hundisturbed := h.restrict_of_invariant (P := Undisturbed key) hidle
    (fun _ _ _ hs hst => hs.step hst) fun _ _ _ hs hst => hs.undisturbed hst.1
  exact hundisturbed.mono fun _ _ _ hst => ⟨hst.1.1, hst.2⟩

end Turns

namespace Sample

/-- The bond of the agent just covers what it has drawn. -/
def tight : MonitorState Network where
  world := (({ (opened proposed).world.1 with exposures := AList.insert ("agent", "LAGOS") "66" ∅ },
    [⟨"agent", "LAGOS", .authorized, 100⟩]), ⟨0, []⟩)
  running _ := none

def monitorSettings : MonitorSettings := { deployment with agentFloatAlertBps := 3000 }

def answerSweep (tables : Records × List MonitoredAgent) (q : SweepQuery) :
    Except Failure (SweepAnswer q) × (Records × List MonitoredAgent) :=
  obey SweepQuery.perform (Failure.error "refused") tables q

def answerMonitor (w : MonitorWorld Network) : (q : MonitorCall) →
    Except Failure (MonitorAnswer q) × MonitorWorld Network
  | .inl q => ((answerSweep w.1 q).1, (answerSweep w.1 q).2, w.2)
  | .inr q => ((answer (w.1.1, w.2) q).1,
      ((answer (w.1.1, w.2) q).2.1, w.1.2), (answer (w.1.1, w.2) q).2.2)

theorem answerMonitor_answers (w : MonitorWorld Network) (q : MonitorCall) :
    (monitorEnvironment (.ofAnswer respond)).answers w q (answerMonitor w q).1
      (answerMonitor w q).2 := by
  cases q with
  | inl q => exact ⟨obey_answers w.1 q, rfl⟩
  | inr q => exact ⟨answer_answers (w.1.1, w.2) q, rfl⟩

/-- The cron job and the dashboard sweep at the same time: both look for an alert before either has
created one. -/
def sweeps : List (Turn MonitorCommand) :=
  [.start 1 (.sweepRegion "LAGOS"), .start 2 (.sweepRegion "LAGOS"), .call 1, .call 2, .call 1,
    .call 2, .call 1, .call 2]

def tightKey : AlertKey := ⟨"agent", "LAGOS", "COLLATERAL_TIGHT"⟩

def swept : MonitorState Network :=
  play (monitorProgram library monitorSettings) answerMonitor tight sweeps

theorem unresolved_tight : unresolved tightKey tight.world.alerts = 0 := by
  decide +kernel

/-- The cron job sweeps twice, and the second time finds the alert of the first. -/
def sweepsInTurn : List (Turn MonitorCommand) :=
  [.start 1 (.sweepRegion "LAGOS"), .call 1, .call 1, .call 1, .finish 1,
    .start 1 (.sweepRegion "LAGOS"), .call 1, .call 1, .finish 1]

def sweptInTurn : MonitorState Network :=
  play (monitorProgram library monitorSettings) answerMonitor tight sweepsInTurn

theorem sweptInTurn_run : ((monitor library monitorSettings (.ofAnswer respond)).restrict Turns).Run
    tight (trace (monitorProgram library monitorSettings) answerMonitor tight sweepsInTurn)
      sweptInTurn := by
  -- Nobody but the cron job runs.
  have halone :
      ∀ n pid, pid ≠ 1 → (play (monitorProgram library monitorSettings) answerMonitor tight
      (sweepsInTurn.take n)).running pid = none := by
    intro n pid hpid
    refine play_running _ fun t ht => ?_
    have hone : ∀ t ∈ sweepsInTurn, t.pid = 1 := by simp [sweepsInTurn, Turn.pid]
    rw [hone t (List.mem_of_mem_take ht)]
    exact hpid.symm
  have hrun : ((monitor library monitorSettings (.ofAnswer respond)).restrict fun s _ s' =>
      ∀ pid ≠ 1, s.running pid = none ∧ s'.running pid = none).Run tight _ sweptInTurn :=
    play_restrict (G := fun s s' => ∀ pid ≠ 1, s.running pid = none ∧ s'.running pid = none)
      answerMonitor_answers sweepsInTurn fun n _ pid hpid =>
        ⟨halone n pid hpid, halone (n + 1) pid hpid⟩
  refine hrun.mono fun s l s' hst => ⟨hst.1, ?_⟩
  rintro pid regionId rfl pid' ⟨t, -, ht, -⟩
  obtain ⟨hst, hothers⟩ := hst
  cases hst with
  | start hnone =>
    have hpid : pid = 1 := by
      by_contra hne
      cases (Function.update_self ..).symm.trans (hothers pid hne).2
    have hpid' : pid' ≠ 1 := by
      rintro rfl
      rw [← hpid, hnone] at ht
      cases ht
    rw [(hothers pid' hpid').1] at ht
    cases ht

end Sample

/-- Two sweeps open the same alert. -/
theorem not_alerts_unique_sample : Sample.tight.Idle ∧
    unresolved Sample.tightKey Sample.tight.world.alerts = 0 ∧
    (monitor Sample.library Sample.monitorSettings (.ofAnswer Sample.respond)).Reachable
      Sample.tight Sample.swept ∧
    unresolved Sample.tightKey Sample.swept.world.alerts = 2 :=
  ⟨fun _ => rfl, Sample.unresolved_tight, ⟨_, play_run Sample.answerMonitor_answers Sample.sweeps⟩,
    by decide +kernel⟩

theorem alerts_unique_iff_sample :
    unresolved Sample.tightKey Sample.sweptInTurn.world.alerts ≤ 1 :=
  (alerts_unique_iff (fun _ => rfl) (Sample.unresolved_tight.le.trans zero_le_one)
    ⟨_, undisturbed_of_turns (fun _ => rfl) Sample.sweptInTurn_run⟩).1

end Liquidity

end RemitBridge
