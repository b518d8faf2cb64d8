import VideoStats.Service.World

namespace VideoStats.Service

def refusal? (sql : String) : Act (Option String) := do
  match (← get).database.failOn with
  | some t => pure (if !t.isEmpty && Text.contains sql t then some t else none)
  | none => pure none

def execute (sql : String) (params : Option (List Json) := none) : Act Unit := do
  record (.execute sql params)
  if let some t ← refusal? sql then throw (.database ("statement failed: " ++ t))

def executeMany (sql : String) (rows : List (List Json)) : Act Unit := do
  record (.executeMany sql rows)
  if let some t ← refusal? sql then throw (.database ("statement failed: " ++ t))

def utcSql : String := "SET TIME ZONE 'UTC'"

def connectUtc (url : String) : Act Unit := do
  record (.connect url)
  execute utcSql

/-- Run a body in a transaction. -/
def transaction {α : Type} (body : Act α) : Act α := do
  record .begin
  let a ← onFailure body (record .rollback)
  record .commit
  pure a

/-- Run a body with a connection, closing it afterwards. -/
def withConnection {α : Type} (body : Act α) : Act α := do
  let a ← onFailure body (record (.close false))
  record (.close true)
  pure a

end VideoStats.Service
