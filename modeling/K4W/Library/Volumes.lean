import Mathlib.Data.List.Nodup

/-!
# Numbered volumes

A tape keeps the finished volumes and the one that is being recorded.  The
leaves of a volume are its entries in their order, keyed by the label of the
volume and their number from zero.  Recording only adds leaves, and their keys
are distinct as soon as the labels are.
-/

namespace K4W.Library

universe u v

structure Volume (Label : Type u) (Entry : Type v) where
  label : Label
  entries : List Entry

/-- The finished volumes, and the one that is being recorded. -/
structure Tape (Label : Type u) (Entry : Type v) where
  finished : List (Volume Label Entry)
  current : Option (Volume Label Entry)

variable {Label : Type u} {Entry : Type v}

namespace Volume

/-- The entries with their keys, from the first one on. -/
def leaves (volume : Volume Label Entry) : List ((Label × Nat) × Entry) :=
  volume.entries.zipIdx.map fun entry => ((volume.label, entry.2), entry.1)

def add (volume : Volume Label Entry) (entry : Entry) : Volume Label Entry :=
  { volume with entries := volume.entries ++ [entry] }

theorem leaves_add (volume : Volume Label Entry) (entry : Entry) :
    (volume.add entry).leaves =
      volume.leaves ++ [((volume.label, volume.entries.length), entry)] := by
  simp [leaves, add, List.zipIdx_append]

/-- The keys of a volume count its entries. -/
theorem keys_leaves (volume : Volume Label Entry) :
    volume.leaves.map Prod.fst =
      (List.range volume.entries.length).map fun i => (volume.label, i) := by
  have hsnd : volume.leaves.map Prod.fst =
      (volume.entries.zipIdx.map Prod.snd).map fun i => (volume.label, i) := by
    rw [leaves, List.map_map, List.map_map]
    rfl
  rw [hsnd, List.zipIdx_map_snd, List.range_eq_range']

theorem length_leaves (volume : Volume Label Entry) :
    volume.leaves.length = volume.entries.length := by
  rw [leaves, List.length_map, List.length_zipIdx]

end Volume

namespace Tape

def blank : Tape Label Entry where
  finished := []
  current := none

def volumes (tape : Tape Label Entry) : List (Volume Label Entry) :=
  tape.finished ++ tape.current.toList

/-- Everything recorded, in the order of the recordings. -/
def leaves (tape : Tape Label Entry) : List ((Label × Nat) × Entry) :=
  tape.volumes.flatMap Volume.leaves

def labels (tape : Tape Label Entry) : List Label :=
  tape.volumes.map Volume.label

/-- Finish the current volume. -/
def stop (tape : Tape Label Entry) : Tape Label Entry where
  finished := tape.volumes
  current := none

/-- Begin a volume; the current one is finished. -/
def start (tape : Tape Label Entry) (label : Label) : Tape Label Entry where
  finished := tape.volumes
  current := some ⟨label, []⟩

/-- Add an entry to the current volume. -/
def record (tape : Tape Label Entry) (entry : Entry) : Tape Label Entry :=
  { tape with current := tape.current.map (Volume.add · entry) }

theorem volumes_stop (tape : Tape Label Entry) : tape.stop.volumes = tape.volumes :=
  List.append_nil _

theorem leaves_stop (tape : Tape Label Entry) : tape.stop.leaves = tape.leaves := by
  rw [leaves, volumes_stop, leaves]

theorem leaves_start (tape : Tape Label Entry) (label : Label) :
    (tape.start label).leaves = tape.leaves := by
  rw [leaves, volumes, start, Option.toList_some, List.flatMap_append]
  exact List.append_nil _

/-- An entry becomes the next leaf of the current volume. -/
theorem leaves_record {tape : Tape Label Entry} {volume : Volume Label Entry}
    (hcurrent : tape.current = some volume) (entry : Entry) :
    (tape.record entry).leaves =
      tape.leaves ++ [((volume.label, volume.entries.length), entry)] := by
  rw [leaves, leaves, volumes, volumes, record, hcurrent, Option.map_some, Option.toList_some,
    Option.toList_some, List.flatMap_append, List.flatMap_append, List.flatMap_singleton,
    List.flatMap_singleton, Volume.leaves_add, List.append_assoc]

theorem length_entries_le {tape : Tape Label Entry} {volume : Volume Label Entry}
    (hmem : volume ∈ tape.volumes) : volume.entries.length ≤ tape.leaves.length := by
  rw [← Volume.length_leaves, leaves, List.flatMap_def]
  exact (List.sublist_flatten_of_mem (List.mem_map_of_mem hmem)).length_le

theorem number_lt {tape : Tape Label Entry} {key : Label × Nat}
    (hkey : key ∈ tape.leaves.map Prod.fst) : key.2 < tape.leaves.length := by
  rw [leaves, List.map_flatMap] at hkey
  obtain ⟨volume, hvolume, hkey⟩ := List.mem_flatMap.mp hkey
  rw [Volume.keys_leaves] at hkey
  obtain ⟨i, hi, rfl⟩ := List.mem_map.mp hkey
  exact Nat.lt_of_lt_of_le (List.mem_range.mp hi) (length_entries_le hvolume)

/-- With distinct labels, no key comes twice. -/
theorem keys_nodup {tape : Tape Label Entry} (hlabels : tape.labels.Nodup) :
    (tape.leaves.map Prod.fst).Nodup := by
  rw [leaves, List.map_flatMap]
  refine List.nodup_flatMap.mpr ⟨fun volume _ => ?_, ?_⟩
  · rw [Volume.keys_leaves]
    exact List.nodup_range.map fun _ _ hsame => (Prod.mk.inj hsame).2
  · refine (List.pairwise_map.mp hlabels).imp fun {first second} hne => ?_
    intro key hfirst hsecond
    change key ∈ first.leaves.map Prod.fst at hfirst
    change key ∈ second.leaves.map Prod.fst at hsecond
    rw [Volume.keys_leaves] at hfirst hsecond
    obtain ⟨i, -, rfl⟩ := List.mem_map.mp hfirst
    obtain ⟨j, -, hkey⟩ := List.mem_map.mp hsecond
    exact hne (Prod.mk.inj hkey).1.symm

end Tape

end K4W.Library
