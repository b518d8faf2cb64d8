import VideoStats.Json.Convert

namespace VideoStats.Dataset

open Json

def textCell (record : Json) (key : String) : Except UseError Json :=
  (record.member key).map fun v => .str v.text

def intCell (record : Json) (key : String) : Except UseError Json := do
  let v ← record.member key
  let n ← v.integer
  pure (.int n)

def videoRow (v : Json) : Except UseError (List Json) := do
  let id ← textCell v "id"
  let creator ← textCell v "creator_id"
  let published ← v.member "video_created_at"
  let views ← intCell v "views_count"
  let likes ← intCell v "likes_count"
  let comments ← intCell v "comments_count"
  let reports ← intCell v "reports_count"
  let created ← v.member "created_at"
  let updated ← v.member "updated_at"
  pure [id, creator, published, views, likes, comments, reports, created, updated]

def snapshotRow (s : Json) : Except UseError (List Json) := do
  let id ← textCell s "id"
  let video ← textCell s "video_id"
  let views ← intCell s "views_count"
  let likes ← intCell s "likes_count"
  let comments ← intCell s "comments_count"
  let reports ← intCell s "reports_count"
  let dViews ← intCell s "delta_views_count"
  let dLikes ← intCell s "delta_likes_count"
  let dComments ← intCell s "delta_comments_count"
  let dReports ← intCell s "delta_reports_count"
  let created ← s.member "created_at"
  let updated ← s.member "updated_at"
  pure [id, video, views, likes, comments, reports, dViews, dLikes, dComments, dReports,
    created, updated]

def videoRows (videos : Json) : Except UseError (List (List Json)) := do
  (← videos.items).mapM videoRow

def untilError {α β ε : Type} (f : α → Except ε β) : List α → List β × Option ε
  | [] => ([], none)
  | x :: xs =>
    match f x with
    | .ok b => let (bs, e) := untilError f xs; (b :: bs, e)
    | .error e => ([], some e)

def snapshotRowsOf : List Json → List (List Json) × Option UseError
  | [] => ([], none)
  | video :: rest =>
    match (video.memberOr "snapshots" (.arr [])).bind Json.items with
    | .error e => ([], some e)
    | .ok snaps =>
      match untilError snapshotRow snaps with
      | (rows, some e) => (rows, some e)
      | (rows, none) => let (more, e) := snapshotRowsOf rest; (rows ++ more, e)

def snapshotRowStream (videos : Json) : List (List Json) × Option UseError :=
  match videos.items with
  | .error e => ([], some e)
  | .ok vs => snapshotRowsOf vs

def snapshotRows (videos : Json) : Except UseError (List (List Json)) :=
  match snapshotRowStream videos with
  | (rows, none) => .ok rows
  | (_, some e) => .error e

/-- Consecutive batches of `size` items, the last possibly shorter; a size below one gives ones. -/
def batches {α : Type} (size : Nat) (xs : List α) : List (List α) :=
  match xs with
  | [] => []
  | x :: rest => (x :: rest).take (size - 1 + 1) :: batches size ((x :: rest).drop (size - 1 + 1))
termination_by xs.length
decreasing_by simp only [List.length_drop, List.length_cons]; omega

end VideoStats.Dataset
