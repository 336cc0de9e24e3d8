import BatchInference.Proofs.Session.Asked
import BatchInference.Proofs.Session.Leftovers

/-!
Chronicles of sessions. A chronicle is a history that also says what every call asked of its engine, and so in which
order requests were offered over all engines of a session. It holds calls of every kind and every end: that answer,
are refused by a check or by the engine, fail on a step, or are given up. What a single call asks is known; here it is
put together to what all calls on one counter ask.
-/

namespace BatchInference

variable {σ τ : Type}

/-- What one call of a session asked of the engine of its station. -/
structure CallRecord where
  station : Nat
  uses : List EngineUse

namespace CallRecord

/-- The requests that a call offered to its engine, in order. -/
def attempts (record : CallRecord) : List Request := EngineUse.requests record.uses

/-- Everything that several calls asked, over all engines and in order. -/
def allUses (records : List CallRecord) : List EngineUse := records.flatMap (·.uses)

/-- The requests that several calls offered, over all engines and in order. -/
def allAttempts (records : List CallRecord) : List Request := EngineUse.requests (allUses records)

@[simp]
theorem allUses_append (records more : List CallRecord) : allUses (records ++ more) = allUses records ++ allUses more := by
  simp [allUses]

@[simp]
theorem allUses_cons (record : CallRecord) (more : List CallRecord) :
    allUses (record :: more) = record.uses ++ allUses more := rfl

@[simp]
theorem allUses_nil : allUses [] = [] := rfl

end CallRecord

namespace Session

open CallRecord

/-- The sessions that calls can make of another one, with what the calls asked. Each call is run on an engine that
keeps a record of its uses, and adds to the one record of everything that was asked before. -/
inductive Chronicle (start : Session σ) : List CallRecord → Session σ → Prop
  | start : Chronicle start [] start
  | call {τ : Type} {records : List CallRecord} {s : Session σ} {station : Station σ} {uses : List EngineUse}
      {result : Except Halt Answer} {after : Core σ}
      (earlier : Chronicle start records s) (index ticks : Nat) (sink : Option (ProgressSink τ)) (shown : τ)
      (call : Call) (there : s.stations[index]? = some station)
      (ends : (station.service.recorded.call ticks sink call).Ends
        ((station.world s.counter shown).recorded (allUses records)) result
        (after.recorded (allUses records ++ uses))) :
      Chronicle start (records ++ [⟨index, uses⟩]) (s.left index station after)

variable {start s s' : Session σ} {records : List CallRecord} {record : CallRecord} {index ticks : Nat}
  {sink : Option (ProgressSink τ)} {shown : τ} {call : Call} {v : Visit τ Answer} {ends : List CallEnd}

/-- Every call at every station continues a chronicle, and leaves what it leaves without one. -/
theorem Chronicle.continued (h : Chronicle start records s)
    (hvisit : s.visit index shown (fun svc => svc.call ticks sink call) = some (v, s')) :
    ∃ uses, Chronicle start (records ++ [⟨index, uses⟩]) s' := by
  obtain ⟨station, after, hstation, hends, rfl⟩ := exists_of_visit hvisit
  obtain ⟨asked, _, _, hasks⟩ := station.service.exists_callAsks ticks sink call (station.world s.counter shown)
  obtain ⟨rfl, rfl⟩ := hasks.ends.unique hends
  exact ⟨asked, h.call index ticks sink shown call hstation (hasks.recorded _)⟩

/-- Every history has a chronicle. -/
theorem History.exists_chronicle (h : History start ends s) :
    ∃ records, Chronicle start records s ∧ records.map (·.station) = ends.map (·.station) := by
  induction h with
  | start => exact ⟨[], .start, rfl⟩
  | call _ index ticks sink shown call hvisit _ ih =>
    obtain ⟨records, hchronicle, hstations⟩ := ih
    obtain ⟨uses, hcontinued⟩ := hchronicle.continued hvisit
    exact ⟨_, hcontinued, by simp [hstations]⟩

/-- What a chronicle amounts to: over all calls the ids are those the counter gave, one for each attempt, and at every
station, which keeps its service, all attempts are fit for the model. -/
structure Accounts (start : Session σ) (records : List CallRecord) (s : Session σ) : Prop where
  draws : Draws start.counter (allUses records) s.counter
  services : ∀ i : Nat, s.stations[i]?.map Station.service = start.stations[i]?.map Station.service
  fit : ∀ record ∈ records, ∃ station, start.stations[record.station]? = some station ∧
    ∀ r ∈ record.attempts, r.FitFor station.service.model

theorem Accounts.none : Accounts start [] start := ⟨.nothing, fun _ => rfl, List.forall_mem_nil _⟩

/-- One more call, which asks for the next ids and for what is fit for its model. -/
theorem Accounts.snoc {station : Station σ} {uses : List EngineUse} {after : Core σ} (h : Accounts start records s)
    (hstation : s.stations[index]? = some station)
    (hasks : Asks station.service.model s.counter uses after.counter) :
    Accounts start (records ++ [⟨index, uses⟩]) (s.left index station after) where
  draws := by
    rw [allUses_append, allUses_cons, allUses_nil, List.append_nil]
    exact h.draws.append hasks.toDraws
  services := by
    intro i
    rw [← h.services i]
    by_cases hsame : index = i
    · subst hsame
      rw [stations_left_self hstation, hstation]
      rfl
    · rw [stations_left_other hsame]
  fit := by
    intro record hrecord
    rcases List.mem_append.mp hrecord with hearlier | hlast
    · exact h.fit record hearlier
    · cases List.mem_singleton.mp hlast
      have hservice := h.services index
      rw [hstation] at hservice
      obtain ⟨first, hfirst, hsame⟩ := Option.map_eq_some_iff.mp hservice.symm
      exact ⟨first, hfirst, hsame ▸ hasks.fit⟩

theorem Chronicle.accounts (h : Chronicle start records s) : Accounts start records s := by
  induction h with
  | start => exact .none
  | @call _ _ s station _ _ _ _ _ ticks sink shown call there ends ih =>
    obtain ⟨asked, _, _, hasks⟩ := station.service.exists_callAsks ticks sink call (station.world s.counter shown)
    obtain ⟨_, rfl, rfl⟩ := hasks.unique ends
    exact ih.snoc there hasks.asks

/-- Over any number of calls at services on one counter, whatever comes of them, the requests that are offered carry
the ids that follow the start of the counter one by one, each call those after the calls before it; the counter ends
as many ids later, and before it comes round no id is given twice. -/
theorem ids_drawn_one_by_one (h : Chronicle start records s) :
    (allAttempts records).map (·.id) = start.counter.ids (allAttempts records).length ∧
    s.counter = start.counter.skip (allAttempts records).length ∧
    ((allAttempts records).length ≤ 2 ^ 64 → ((allAttempts records).map (·.id)).Nodup) ∧
    ∀ earlier record later, records = earlier ++ record :: later →
      record.attempts.map (·.id) =
        (start.counter.skip (allAttempts earlier).length).ids record.attempts.length := by
  have hdraws := h.accounts.draws
  refine ⟨hdraws.ids, hdraws.left_eq, ?_, ?_⟩
  · intro hfew
    rw [allAttempts, hdraws.ids]
    exact start.counter.nodup_ids hfew
  · rintro earlier record later rfl
    rw [allUses_append, allUses_cons] at hdraws
    exact hdraws.of_append.2.of_append.1.ids

/-- Two engines on a counter that stands at its last id. -/
def twoStations : Session Scripted.State := ⟨⟨18446744073709551615⟩, [refusingStation, refusingStation]⟩

/-- Parameters that ask for guidance, and for prompts that are cut to the context window. -/
def guidedParams : SamplingParams :=
  { truncatePromptTokens := some (-1), guidedDecoding := some { regex := some "a" } }

def guidedRequest (text : String) (id : UInt64) : Request where
  prompt := .ofText text
  params := .sampling { guidedParams with outputKind := .finalOnly }
  truncation := some ⟨true, 4096⟩
  id := ⟨id⟩

/-- A call of which the second request is refused. -/
def refusedRecord : CallRecord :=
  ⟨0, [.offered (guidedRequest "a" 18446744073709551615), .offered (guidedRequest "b" 0)]⟩

/-- A call that answers after one step. -/
def answeredRecord : CallRecord := ⟨1, [.offered (textRequest "c" 1), .stepped]⟩

theorem onePrompt_asks : ∃ result, refusingStation.service.CallAsks 1 (none : Option (ProgressSink Unit))
    onePrompt.call (refusingStation.world ⟨1⟩ ()) answeredRecord.uses result
    ⟨{ offers := 1, steps := 1, accepted := [textRequest "c" 1] }, ⟨2⟩, none⟩ := by
  have hbatch : onePrompt.batch refusingStation.service (refusingStation.world ⟨1⟩ ()).defaults =
      .ok { prompts := [.ofText "c"], params := .one (.sampling {}) } := rfl
  exact ⟨_, Service.batchCall_asks_batch hbatch rfl⟩

/-- One call is refused by the engine of the first station; at the second one call fails its checks and one answers. -/
theorem chronicle_twoStations : ∃ s, Chronicle twoStations [refusedRecord, ⟨1, []⟩, answeredRecord] s := by
  have hrefused : Chronicle twoStations [refusedRecord] (twoStations.left 0 refusingStation
      ⟨{ offers := 2, accepted := [guidedRequest "a" 18446744073709551615],
         jobs := [⟨guidedRequest "a" 18446744073709551615, 1⟩] }, ⟨1⟩, none⟩) :=
    .call .start 0 1 (none : Option (ProgressSink Unit)) ()
      (.generate (.batch [.ofText "a", .ofText "b"]) { params := some (.one guidedParams) }) rfl ⟨_, rfl, rfl⟩
  have hinvalid : Chronicle twoStations [refusedRecord, ⟨1, []⟩] (Session.left _ 1 refusingStation ⟨{}, ⟨1⟩, none⟩) :=
    .call hrefused 1 1 (none : Option (ProgressSink Unit)) ()
      (.generate (.single (.ofText "a")) { params := some (.one {}), priority := some [] }) rfl ⟨_, rfl, rfl⟩
  obtain ⟨_, hasks⟩ := onePrompt_asks
  exact ⟨_, .call hinvalid 1 1 none () onePrompt.call rfl (hasks.recorded _)⟩

/-- The counter comes round within the first call and goes on from there in the last one. -/
theorem ids_drawn_at_twoStations : ∃ s, Chronicle twoStations [refusedRecord, ⟨1, []⟩, answeredRecord] s ∧
    twoStations.counter.ids 3 = [⟨18446744073709551615⟩, ⟨0⟩, ⟨1⟩] ∧
    (allAttempts [refusedRecord, ⟨1, []⟩, answeredRecord]).map (·.id) = twoStations.counter.ids 3 ∧
    s.counter = ⟨2⟩ ∧ (twoStations.counter.ids 3).Nodup ∧
    answeredRecord.attempts.map (·.id) = (twoStations.counter.skip 2).ids 1 := by
  obtain ⟨s, hchronicle⟩ := chronicle_twoStations
  obtain ⟨hids, hcounter, hnodup, hcalls⟩ := ids_drawn_one_by_one hchronicle
  refine ⟨s, hchronicle, by decide, hids, hcounter, ?_, hcalls [refusedRecord, ⟨1, []⟩] answeredRecord [] rfl⟩
  rw [hids] at hnodup
  exact hnodup (by decide)

/-- Whatever the calls of a session are and whatever their engines do, every request that an engine is offered is fit
for its model: its parameters pass, it reports at its end only and has one mode of guidance at most, and what is kept
of its prompt is within the context window. -/
theorem offered_requests_fit (h : Chronicle start records s) (hrecord : record ∈ records) :
    ∃ station, start.stations[record.station]? = some station ∧
      ∀ r ∈ record.attempts, r.params.verify station.service.model = .ok () ∧
        (∀ p, r.params = .sampling p → p.outputKind = .finalOnly ∧ ∀ g, p.guidedDecoding = some g → g.modeCount ≤ 1) ∧
        ∀ t, r.truncation = some t → t.enabled = true ∧ t.maxLength ≤ station.service.model.maxModelLen := by
  obtain ⟨station, hstation, hfit⟩ := h.accounts.fit record hrecord
  refine ⟨station, hstation, ?_⟩
  intro r hr
  exact ⟨(hfit r hr).verified, (hfit r hr).sampling, (hfit r hr).truncation⟩

/-- A request with guidance and truncation that was offered before a refusal. -/
theorem guided_request_offered : guidedRequest "a" 18446744073709551615 ∈ refusedRecord.attempts ∧
    ∃ station, twoStations.stations[0]? = some station ∧
      (RequestParams.sampling { guidedParams with outputKind := .finalOnly }).verify station.service.model = .ok () ∧
      (∀ g, guidedParams.guidedDecoding = some g → g.modeCount ≤ 1) ∧ 4096 ≤ station.service.model.maxModelLen := by
  obtain ⟨s, hchronicle⟩ := chronicle_twoStations
  have hrecord : refusedRecord ∈ [refusedRecord, ⟨1, []⟩, answeredRecord] := List.mem_cons_self
  obtain ⟨station, hstation, hfit⟩ := offered_requests_fit hchronicle hrecord
  have hoffered : guidedRequest "a" 18446744073709551615 ∈ refusedRecord.attempts := List.mem_cons_self
  obtain ⟨hverify, hsampling, htruncation⟩ := hfit _ hoffered
  exact ⟨hoffered, station, hstation, hverify, (hsampling _ rfl).2, (htruncation _ rfl).2⟩

end Session

end BatchInference
