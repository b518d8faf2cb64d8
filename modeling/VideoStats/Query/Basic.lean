import VideoStats.Intent.Basic
import VideoStats.Json.Basic

namespace VideoStats

namespace Query

inductive Param where
  | text (s : String)
  | int (n : Int)
  | moment (m : Moment)
  deriving DecidableEq, Repr

def Param.toJson : Param → Json
  | .text s => .str s
  | .int n => .int n
  | .moment m => .obj [("datetime", .str m.iso)]

inductive Alias where
  | videos
  | snapshots
  | peaks
  deriving DecidableEq, Repr

def Alias.name : Alias → String
  | .videos => "v"
  | .snapshots => "s"
  | .peaks => "sm"

structure Column where
  table : Alias
  name : String
  deriving DecidableEq, Repr

def Column.sql (c : Column) : String := c.table.name ++ "." ++ c.name

inductive Condition where
  | compare (c : Column) (op : Comparator) (value : Param)
  | sign (c : Column) (op : Comparator)
  | during (c : Column) (lo hi : Moment)
  | between (c : Column) (lo hi : Moment)
  | snapshotDuring (lo hi : Moment)
  deriving DecidableEq, Repr

def duringSql (c : Column) : String := c.sql ++ " >= %s AND " ++ c.sql ++ " < %s"

def Condition.sql : Condition → String
  | .compare c op _ => c.sql ++ " " ++ op.symbol ++ " %s"
  | .sign c op => c.sql ++ " " ++ op.symbol ++ " 0"
  | .during c _ _ => duringSql c
  | .between c _ _ => c.sql ++ " >= %s AND " ++ c.sql ++ " <= %s"
  | .snapshotDuring _ _ =>
    "EXISTS (SELECT 1 FROM video_snapshots s WHERE s.video_id = v.id AND " ++
      duringSql ⟨.snapshots, "created_at"⟩ ++ ")"

def Condition.params : Condition → List Param
  | .compare _ _ v => [v]
  | .sign _ _ => []
  | .during _ lo hi => [.moment lo, .moment hi]
  | .between _ lo hi => [.moment lo, .moment hi]
  | .snapshotDuring lo hi => [.moment lo, .moment hi]

inductive Aggregate where
  | rows
  | distinctCreators
  | distinctPublishDays
  | distinctVideos
  | total (c : Column)
  deriving DecidableEq, Repr

def Aggregate.sql : Aggregate → String
  | .rows => "COUNT(*)::bigint"
  | .distinctCreators => "COUNT(DISTINCT v.creator_id)::bigint"
  | .distinctPublishDays => "COUNT(DISTINCT DATE(v.video_created_at))::bigint"
  | .distinctVideos => "COUNT(DISTINCT s.video_id)::bigint"
  | .total c => "COALESCE(SUM(" ++ c.sql ++ "), 0)::bigint"

inductive Source where
  | videos
  | snapshots
  deriving DecidableEq, Repr

def peaksSql : String :=
  "WITH snap_max AS (" ++
  " SELECT s.video_id," ++
  "        MAX(s.views_count) AS views_count," ++
  "        MAX(s.likes_count) AS likes_count," ++
  "        MAX(s.comments_count) AS comments_count," ++
  "        MAX(s.reports_count) AS reports_count" ++
  "   FROM video_snapshots s" ++
  "  WHERE s.created_at >= %s AND s.created_at < %s" ++
  "  GROUP BY s.video_id" ++
  ") "

def Source.sql (src : Source) (peaks : Bool) : String :=
  match src with
  | .videos => "FROM videos v" ++ (if peaks then " JOIN snap_max sm ON sm.video_id = v.id" else "")
  | .snapshots =>
    "FROM video_snapshots s JOIN videos v ON v.id = s.video_id" ++
      (if peaks then " JOIN snap_max sm ON sm.video_id = s.video_id" else "")

def whereSql : List Condition → String
  | [] => ""
  | cs => " WHERE " ++ " AND ".intercalate (cs.map Condition.sql)

end Query

/-- A scalar query; with `peakWindow` set, the table of largest counters is joined first. -/
structure Query where
  peakWindow : Option (Moment × Moment)
  aggregate : Query.Aggregate
  source : Query.Source
  conditions : List Query.Condition
  deriving DecidableEq, Repr

namespace Query

def sql (q : Query) : String :=
  (if q.peakWindow.isSome then peaksSql else "") ++ "SELECT " ++ q.aggregate.sql ++ " " ++
    q.source.sql q.peakWindow.isSome ++ whereSql q.conditions

def params (q : Query) : List Param :=
  (match q.peakWindow with
   | some (lo, hi) => [.moment lo, .moment hi]
   | none => []) ++ q.conditions.flatMap Condition.params

end Query

end VideoStats
