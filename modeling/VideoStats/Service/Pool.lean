import VideoStats.Service.World

namespace VideoStats.Service

def poolKindName : String := "AsyncConnectionPool"

def createPool (url : Json) (opts : PoolOptions) : Act PoolInit := do
  let conninfo ← match url with
    | .null => do loadDotenv; pure (Json.str (← requireDatabaseUrl))
    | u => pure u
  let init : PoolInit := { conninfo, options := some opts }
  record (.poolInit init)
  modify fun w => { w with pool := some { init } }
  pure init

def executePooled (sql : String) (params : List Json) : Act Unit := do
  record (.execute sql (some params))
  if let some e := (← get).database.error then
    if !sql.startsWith "SET" then throw (.database e)

def ensureUtc : Act Unit := do
  executePooled "SET TIME ZONE 'UTC'" []
  record .commit

def acquire : Act Unit := do
  match (← get).pool with
  | some st =>
    if !st.connected then
      record .poolNewConnection
      modify fun w => { w with pool := some { st with connected := true } }
      if (st.init.options.map (·.utcOnConnect)).getD false then ensureUtc
  | none => pure ()
  record .poolAcquire

/-- Run a body with a pooled connection set to UTC. -/
def withPooledConnection {α : Type} (body : Act α) : Act α := do
  acquire
  always (do ensureUtc; body) (record .poolRelease)

def firstValue (row : Json) : Except Json.UseError Json :=
  match row with
  | .arr (v :: _) => .ok v
  | .str s => .ok (.str (String.ofList (s.toList.take 1)))
  | .obj _ => .error (.missingKey "0")
  | other => .error (.notSubscriptable other.kindName)

/-- Run a scalar query and read its value as an integer. -/
def fetchScalarInt (sql : String) (params : List Json) : Act Int := do
  executePooled sql params
  let row := (← get).database.row
  if !row.isGiven then return 0
  match (firstValue row).bind fun v => if v.isNull then .ok 0 else v.integer with
  | .ok n => pure n
  | .error e => throw (.value e)

end VideoStats.Service
