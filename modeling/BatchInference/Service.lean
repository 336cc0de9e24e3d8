import BatchInference.Run

/-!
A service: an engine with the tokenizer of its model, and what the service does about requests in the log.
-/

namespace BatchInference

structure Service (σ : Type) where
  engine : Engine σ
  tokenizer : Tokenizer
  logger : Option RequestLogger := none

namespace Service

variable {σ τ : Type}

def model (svc : Service σ) : ModelConfig := svc.engine.model

/-- The runner in use, where the model could have been started with the wanted one. -/
def startedInstead (svc : Service σ) (wanted : Runner) : Option Runner :=
  if svc.model.supports wanted then some svc.model.runner else none

def requireGeneration (svc : Service σ) : Except CallError Unit :=
  if svc.model.runner = .generate then .ok ()
  else .error (.unsupported (.generation (svc.startedInstead .generate)))

def requirePooling (svc : Service σ) (operation : String) : Except CallError Unit :=
  if svc.model.runner = .pooling then .ok ()
  else .error (.unsupported (.pooling operation (svc.startedInstead .pooling)))

/-- What the log says when the model has a part in the default parameters. -/
def defaultsNote (d : GenerationDefaults) : String :=
  "Default sampling parameters have been overridden by the model's generation config: " ++ Diagnostic.text d

/-- The sampling parameters of calls that give none. They are worked out once, and the log says so if the model
had a part in them. -/
def defaultParams (svc : Service σ) : Run σ τ SamplingParams := do
  match (← get).defaults with
  | some p => return p
  | none =>
    let d := svc.model.generationDefaults
    let p := SamplingParams.ofDefaults d
    Run.logWhen (!d.isEmpty) .info (defaultsNote d)
    modify fun w => { w with defaults := some p }
    return p

def showRequest (svc : Service σ) (r : Request) : Run σ τ Unit :=
  match svc.logger with
  | none => pure ()
  | some logger =>
    let record := logger.record r
    Run.log record.level record.text

end Service

end BatchInference
