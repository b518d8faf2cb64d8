import VideoStats.Proofs.Tables

set_option autoImplicit false

namespace VideoStats

def DateRange.covers (r : DateRange) (d : Day) : Bool := decide (r.start ≤ d ∧ d ≤ r.stop)

def Intent.snapshotInRange (i : Intent) (s : Snapshot) : Bool :=
  match i.dateRange, i.timeWindow with
  | none, _ => true
  | some r, none => r.covers s.takenAt.day
  | some r, some w =>
    s.takenAt.day == r.start && decide (w.start ≤ s.takenAt.time ∧ s.takenAt.time ≤ w.stop)

namespace Tables

variable (T : Tables) (i : Intent)

def takenIn (r : DateRange) (video : String) : List Snapshot :=
  T.snapshots.filter fun s => s.video == video && r.covers s.takenAt.day

def peakOf (r : DateRange) (video : String) (m : Metric) : Option Int :=
  ((T.takenIn r video).map (·.count.get m)).max?

def meets (v : Video) (t : Threshold) : Bool :=
  match t.basis with
  | .finalTotal => t.op.holds (v.final.get t.metric) t.value
  | .snapshotAsOf =>
    match i.dateRange.bind fun r => T.peakOf r v.id t.metric with
    | some x => t.op.holds x t.value
    | none => false

def passes (v : Video) : Bool :=
  i.filters.creator.all (v.creator == ·) && i.filters.thresholds.all (T.meets i v)

def videoInRange (v : Video) : Bool :=
  match i.dateRange with
  | none => true
  | some r =>
    match r.scope with
    | .videosPublishedAt => r.covers v.publishedAt.day
    | .snapshotsCreatedAt => !(T.takenIn r v.id).isEmpty

def chosenVideos : List Video := T.videos.filter fun v => T.passes i v && T.videoInRange i v

def chosenSnapshots : List Snapshot :=
  T.snapshots.filter fun s =>
    i.snapshotInRange s && T.videos.any fun v => v.id == s.video && T.passes i v

/-- The value an intent asks for; a missing counter asks for nothing, which is zero. -/
def answer : Int :=
  match i.operation, i.metric with
  | .countVideos, _ => (T.chosenVideos i).length
  | .countDistinctCreators, _ => ((T.chosenVideos i).map (·.creator)).dedup.length
  | .countDistinctPublishDays, _ => ((T.chosenVideos i).map (·.publishedAt.day)).dedup.length
  | .sumTotalMetric, some m => ((T.chosenVideos i).map (·.final.get m)).sum
  | .sumDeltaMetric, some m => ((T.chosenSnapshots i).map (·.delta.get m)).sum
  | .countDistinctVideosWithPositiveDelta, some m =>
    (((T.chosenSnapshots i).filter (0 < ·.delta.get m)).map (·.video)).dedup.length
  | .countSnapshotsWithNegativeDelta, some m =>
    ((T.chosenSnapshots i).filter (·.delta.get m < 0)).length
  | _, none => 0

end Tables

end VideoStats
