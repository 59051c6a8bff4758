import LooperControl.Lib.Json
import Mathlib.Data.List.Basic
import Mathlib.Data.List.Nodup

/-!
# The Live API objects the script sees

A song holds tracks, a track a chain of devices, a device a list of parameters. Live hands
these out as objects, and two things the script does depend on which object it is: it
records listeners by device identity, and a listener is a closure over the very track,
device and parameter it was made for. Every object therefore carries an identity, and
`Song` carries the proof that identities are not shared (`WellFormed`).

The edits a user can make (`SongEdit`) are the track and device operations of Live. Only the
edits of the track list itself notify the tracks listener.
-/

namespace LooperControl

/-- The identity of a parameter: the device it belongs to for life, and a number there. -/
structure ParamId where
  device : ℕ
  slot : ℕ
  deriving DecidableEq

/-- A device parameter. `stores` are the values its setter accepts (any other assignment
raises and stores nothing), `listenable` says whether `add_value_listener` succeeds. -/
structure Param where
  id : ParamId
  name : String
  value : Double
  stores : Double → Bool := fun _ => true
  listenable : Bool := true

/-- A device. Reading the parameter list of one that is not `readable` raises. -/
structure Device where
  id : ℕ
  name : String
  className : String
  params : List Param
  readable : Bool := true

/-- A track with its chain of devices. -/
structure Track where
  id : ℕ
  name : String
  devices : List Device

/-- The identities in a track, in place. -/
def Track.ids (t : Track) : ℕ × List (ℕ × List ParamId) :=
  (t.id, t.devices.map fun d => (d.id, d.params.map Param.id))

/-- No two tracks, no two devices and no two parameters share an identity, and a parameter's
identity names the device it is on. -/
def WellFormedIds (l : List (ℕ × List (ℕ × List ParamId))) : Prop :=
  (l.map Prod.fst).Nodup ∧ ((l.flatMap Prod.snd).map Prod.fst).Nodup ∧
    ∀ d ∈ l.flatMap Prod.snd, d.2.Nodup ∧ ∀ p ∈ d.2, p.device = d.1

instance (l : List (ℕ × List (ℕ × List ParamId))) : Decidable (WellFormedIds l) :=
  inferInstanceAs (Decidable (_ ∧ _ ∧ _))

/-- Identities are not shared among the objects of a list of tracks. -/
def WellFormed (tracks : List Track) : Prop := WellFormedIds (tracks.map Track.ids)

instance (tracks : List Track) : Decidable (WellFormed tracks) :=
  inferInstanceAs (Decidable (WellFormedIds _))

/-- A song: its tracks, no identity shared. -/
structure Song where
  tracks : List Track
  wellFormed : WellFormed tracks

namespace Song

/-- The song without tracks. -/
def empty : Song := ⟨[], by decide⟩

instance : Inhabited Song := ⟨empty⟩

/-- `song.tracks[i].devices[j]`. -/
def deviceAt? (song : Song) (i j : ℕ) : Option Device :=
  song.tracks[i]?.bind fun t => t.devices[j]?

/-- `song.tracks[i].devices[j].parameters[k]`. -/
def paramAt? (song : Song) (i j k : ℕ) : Option Param :=
  (song.deviceAt? i j).bind fun d => d.params[k]?

/-- The name of a track object of the song. -/
def trackName? (song : Song) (track : ℕ) : Option String :=
  (song.tracks.find? fun t => t.id = track).map Track.name

/-- The name of a device object of the song. -/
def deviceName? (song : Song) (device : ℕ) : Option String :=
  ((song.tracks.flatMap Track.devices).find? fun d => d.id = device).map Device.name

end Song

/-- `device.parameters`. -/
def Device.parameters (d : Device) : Option (List Param) :=
  if d.readable then some d.params else none

/-- `count_looper_devices` of the Live API helpers. -/
def countLooperDevices (song : Song) (discoveryFunc : Device → Bool) : ℕ :=
  song.tracks.foldl (fun count track =>
    track.devices.foldl (fun count device =>
      if discoveryFunc device then count + 1 else count) count) 0

theorem countLooperDevices_eq (song : Song) (discoveryFunc : Device → Bool) :
    countLooperDevices song discoveryFunc =
      (song.tracks.flatMap fun t => t.devices.filter discoveryFunc).length := by
  have hdevices : ∀ (l : List Device) (count : ℕ), l.foldl (fun count device =>
      if discoveryFunc device then count + 1 else count) count =
        count + (l.filter discoveryFunc).length := by
    intro l
    induction l with
    | nil => exact fun _ => rfl
    | cons d l ih =>
      intro count
      rw [List.foldl_cons, ih, List.filter_cons]
      split
      · rw [List.length_cons]
        omega
      · rfl
  have htracks : ∀ (l : List Track) (count : ℕ), l.foldl (fun count track =>
      track.devices.foldl (fun count device =>
        if discoveryFunc device then count + 1 else count) count) count =
        count + (l.flatMap fun t => t.devices.filter discoveryFunc).length := by
    intro l
    induction l with
    | nil => exact fun _ => rfl
    | cons t l ih =>
      intro count
      rw [List.foldl_cons, ih, hdevices, List.flatMap_cons, List.length_append]
      omega
  rw [countLooperDevices, htracks, Nat.zero_add]

/-! ### Parameter values -/

/-- A device with the value of one parameter replaced. -/
def Device.withValue (k : ℕ) (v : Double) (d : Device) : Device :=
  { d with params := d.params.modify k fun p => { p with value := v } }

@[simp] theorem Device.withValue_name (k : ℕ) (v : Double) (d : Device) :
    (d.withValue k v).name = d.name := rfl

/-- A track with the value of one parameter replaced. -/
def Track.withValue (j k : ℕ) (v : Double) (t : Track) : Track :=
  { t with devices := t.devices.modify j (Device.withValue k v) }

/-- A list of tracks with the value of one parameter replaced. -/
def withValue (tracks : List Track) (i j k : ℕ) (v : Double) : List Track :=
  tracks.modify i (Track.withValue j k v)

theorem map_modify_eq {α β : Type} {f : α → α} {g : α → β} (h : ∀ a, g (f a) = g a)
    (l : List α) (i : ℕ) : (l.modify i f).map g = l.map g := by
  refine List.ext_getElem? fun n => ?_
  rw [List.getElem?_map, List.getElem?_modify, List.getElem?_map]
  rcases l[n]? with _ | a
  · rfl
  · by_cases hn : i = n <;> simp [hn, h]

/-- Values are not identities. -/
theorem ids_withValue (tracks : List Track) (i j k : ℕ) (v : Double) :
    (withValue tracks i j k v).map Track.ids = tracks.map Track.ids := by
  refine map_modify_eq (fun t => ?_) tracks i
  refine Prod.ext rfl (map_modify_eq (fun d => ?_) t.devices j)
  exact Prod.ext rfl (map_modify_eq (f := fun p : Param => { p with value := v }) (fun _ => rfl)
    d.params k)

/-- The song with the value of one parameter replaced. -/
def Song.setValue (song : Song) (i j k : ℕ) (v : Double) : Song :=
  ⟨withValue song.tracks i j k v, by
    rw [WellFormed, ids_withValue]
    exact song.wellFormed⟩

/-- The device at a position after a parameter value has been replaced. -/
theorem deviceAt?_setValue (song : Song) (a b k : ℕ) (v : Double) (i j : ℕ) :
    (song.setValue a b k v).deviceAt? i j = (song.deviceAt? i j).map fun d =>
      if i = a ∧ j = b then d.withValue k v else d := by
  have htracks : (song.setValue a b k v).tracks = song.tracks.modify a (Track.withValue b k v) :=
    rfl
  rw [Song.deviceAt?, Song.deviceAt?, htracks, List.getElem?_modify]
  rcases song.tracks[i]? with _ | t
  · rfl
  by_cases hi : a = i
  · have hdevices : (Track.withValue b k v t).devices[j]? =
        (t.devices[j]?).map fun d => if b = j then d.withValue k v else d := by
      rw [Track.withValue, List.getElem?_modify]
      rcases t.devices[j]? with _ | d
      · rfl
      · by_cases hj : b = j <;> simp [hj]
    simp [hi, hdevices, eq_comm]
  · simp [hi, Ne.symm hi]

/-- A parameter's identity names the device it is on. -/
theorem device_of_deviceAt? {song : Song} {i j k : ℕ} {d : Device} {p : Param}
    (hd : song.deviceAt? i j = some d) (hp : d.params[k]? = some p) : p.id.device = d.id := by
  obtain ⟨-, -, hparams⟩ := song.wellFormed
  rw [Song.deviceAt?, Option.bind_eq_some_iff] at hd
  obtain ⟨t, ht, hd⟩ := hd
  have hmem : (d.id, d.params.map Param.id) ∈ (song.tracks.map Track.ids).flatMap Prod.snd := by
    refine List.mem_flatMap.mpr ⟨t.ids, List.mem_map_of_mem (List.mem_of_getElem? ht), ?_⟩
    exact List.mem_map_of_mem (f := fun d : Device => (d.id, d.params.map Param.id))
      (List.mem_of_getElem? hd)
  exact (hparams _ hmem).2 p.id (List.mem_map_of_mem (List.mem_of_getElem? hp))

/-! ### Edits -/

/-- The edits a user can make to the tracks and device chains of a song. -/
inductive SongEdit
  | insertTrack (i : ℕ) (t : Track)
  | deleteTrack (i : ℕ)
  | moveTrack (source target : ℕ)
  | renameTrack (i : ℕ) (name : String)
  | insertDevice (i j : ℕ) (d : Device)
  | deleteDevice (i j : ℕ)
  | moveDevice (i source target : ℕ)
  | renameDevice (i j : ℕ) (name : String)

/-- An element inserted at a position of a list, if the position exists. -/
def insertAt {α : Type} (l : List α) (i : ℕ) (a : α) : Option (List α) :=
  if i ≤ l.length then some (l.insertIdx i a) else none

/-- The element at a position of a list taken out, if the position exists. -/
def deleteAt {α : Type} (l : List α) (i : ℕ) : Option (List α) :=
  if i < l.length then some (l.eraseIdx i) else none

/-- The element at one position of a list moved to another, if the positions exist. -/
def moveAt {α : Type} (l : List α) (source target : ℕ) : Option (List α) :=
  l[source]?.bind fun a => insertAt (l.eraseIdx source) target a

/-- The element at a position of a list replaced by an edited one, if there is one. -/
def editAt {α : Type} (l : List α) (i : ℕ) (f : α → Option α) : Option (List α) :=
  l[i]?.bind fun a => (f a).map fun b => l.set i b

namespace SongEdit

/-- The tracks after an edit; an edit at a position that does not exist is none. -/
def editTracks (tracks : List Track) : SongEdit → Option (List Track)
  | insertTrack i t => insertAt tracks i t
  | deleteTrack i => deleteAt tracks i
  | moveTrack source target => moveAt tracks source target
  | renameTrack i name => editAt tracks i fun t => some { t with name := name }
  | insertDevice i j d => editAt tracks i fun t =>
      (insertAt t.devices j d).map fun ds => { t with devices := ds }
  | deleteDevice i j => editAt tracks i fun t =>
      (deleteAt t.devices j).map fun ds => { t with devices := ds }
  | moveDevice i source target => editAt tracks i fun t =>
      (moveAt t.devices source target).map fun ds => { t with devices := ds }
  | renameDevice i j name => editAt tracks i fun t =>
      (editAt t.devices j fun d => some { d with name := name }).map fun ds =>
        { t with devices := ds }

/-- The song after an edit. Objects that are inserted must be new ones. -/
def apply (e : SongEdit) (song : Song) : Option Song :=
  (e.editTracks song.tracks).bind fun tracks =>
    if h : WellFormed tracks then some ⟨tracks, h⟩ else none

/-- The edits that Live reports to the tracks listener. -/
def changesTrackList : SongEdit → Bool
  | insertTrack _ _ => true
  | deleteTrack _ => true
  | moveTrack _ _ => true
  | _ => false

end SongEdit

end LooperControl
