import VideoStats.Calendar.Clock

namespace VideoStats

inductive Operation where
  | countVideos
  | countDistinctCreators
  | countDistinctPublishDays
  | sumTotalMetric
  | sumDeltaMetric
  | countDistinctVideosWithPositiveDelta
  | countSnapshotsWithNegativeDelta
  deriving DecidableEq, Repr, Inhabited

namespace Operation

def all : List Operation :=
  [countVideos, countDistinctCreators, countDistinctPublishDays, sumTotalMetric, sumDeltaMetric,
    countDistinctVideosWithPositiveDelta, countSnapshotsWithNegativeDelta]

def name : Operation → String
  | countVideos => "count_videos"
  | countDistinctCreators => "count_distinct_creators"
  | countDistinctPublishDays => "count_distinct_publish_days"
  | sumTotalMetric => "sum_total_metric"
  | sumDeltaMetric => "sum_delta_metric"
  | countDistinctVideosWithPositiveDelta => "count_distinct_videos_with_positive_delta"
  | countSnapshotsWithNegativeDelta => "count_snapshots_with_negative_delta"

def ofName? (s : String) : Option Operation := all.find? (·.name == s)

def isCount : Operation → Bool
  | countVideos | countDistinctCreators | countDistinctPublishDays => true
  | _ => false

def isDelta : Operation → Bool
  | sumDeltaMetric | countDistinctVideosWithPositiveDelta | countSnapshotsWithNegativeDelta => true
  | _ => false

end Operation

inductive Metric where
  | views
  | likes
  | comments
  | reports
  deriving DecidableEq, Repr, Inhabited

namespace Metric

def all : List Metric := [views, likes, comments, reports]

def name : Metric → String
  | views => "views"
  | likes => "likes"
  | comments => "comments"
  | reports => "reports"

def ofName? (s : String) : Option Metric := all.find? (·.name == s)

def column (m : Metric) : String := m.name ++ "_count"

def deltaColumn (m : Metric) : String := "delta_" ++ m.name ++ "_count"

end Metric

inductive Scope where
  | videosPublishedAt
  | snapshotsCreatedAt
  deriving DecidableEq, Repr, Inhabited

namespace Scope

def name : Scope → String
  | videosPublishedAt => "videos_published_at"
  | snapshotsCreatedAt => "snapshots_created_at"

def ofName? (s : String) : Option Scope :=
  [videosPublishedAt, snapshotsCreatedAt].find? (·.name == s)

end Scope

inductive Basis where
  | finalTotal
  | snapshotAsOf
  deriving DecidableEq, Repr, Inhabited

namespace Basis

def name : Basis → String
  | finalTotal => "final_total"
  | snapshotAsOf => "snapshot_as_of"

def ofName? (s : String) : Option Basis := [finalTotal, snapshotAsOf].find? (·.name == s)

end Basis

inductive Comparator where
  | gt
  | ge
  | lt
  | le
  | eq
  deriving DecidableEq, Repr, Inhabited

namespace Comparator

def all : List Comparator := [gt, ge, lt, le, eq]

def symbol : Comparator → String
  | gt => ">"
  | ge => ">="
  | lt => "<"
  | le => "<="
  | eq => "="

def ofSymbol? (s : String) : Option Comparator := all.find? (·.symbol == s)

def holds : Comparator → Int → Int → Bool
  | gt, a, b => a > b
  | ge, a, b => a ≥ b
  | lt, a, b => a < b
  | le, a, b => a ≤ b
  | eq, a, b => a == b

end Comparator

structure DateRange where
  scope : Scope
  start : Day
  stop : Day
  deriving DecidableEq, Repr, Inhabited

structure TimeWindow where
  start : TimeOfDay
  stop : TimeOfDay
  deriving DecidableEq, Repr, Inhabited

structure Threshold where
  basis : Basis
  metric : Metric
  op : Comparator
  value : Int
  deriving DecidableEq, Repr, Inhabited

structure Filters where
  creator : Option String := none
  thresholds : List Threshold := []
  deriving DecidableEq, Repr, Inhabited

/-- What a question asks for. -/
structure Intent where
  operation : Operation
  metric : Option Metric := none
  dateRange : Option DateRange := none
  timeWindow : Option TimeWindow := none
  filters : Filters := {}
  deriving DecidableEq, Repr, Inhabited

end VideoStats
