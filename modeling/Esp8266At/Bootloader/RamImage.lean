import Esp8266At.Bootloader.TaskSpec
import Esp8266At.Lib.Md5

/-!
# RAM and the started firmware

`check_load_binary` copies an image to RAM while it checks it. On the paths that stop at the first
image that passes, the image in RAM is the started one. The scan after `boot_1st` goes on: every
later image whose headers and flash map are accepted is copied over the selected one.
-/

namespace Esp8266At

open ByteSpace NorFlash

namespace Image

/-- The byte the last of the sections to cover address `x` brings there. -/
def lastByte (f : Space) (x : UInt32) : List Section → Option UInt8
  | [] => none
  | s :: ss => (lastByte f x ss).or (slice f s.pos s.length.toNat)[(x - s.address).toNat]?

/-- The sections of the image at `a` do not overlap in RAM. -/
def RamDisjoint (f : Space) (a : UInt32) : Prop :=
  (sections f a).Pairwise fun s t => Disjoint s.ramSpan t.ramSpan

/-- Every section of the image at `a` stands at its place in RAM. -/
def Holds (f : Space) (a : UInt32) (ram : Space) : Prop :=
  ∀ s ∈ sections f a, ∀ i < s.length.toNat, ram (s.address + UInt32.ofNat i) = f (s.pos + UInt32.ofNat i)

instance (f : Space) (a : UInt32) (ram : Space) : Decidable (Holds f a ram) :=
  inferInstanceAs (Decidable (∀ s ∈ sections f a, ∀ i < s.length.toNat, _ = _))

variable {f : Space} {a : UInt32}

theorem load_apply (s : Section) (ram : Space) (x : UInt32) :
    s.load f ram x = ((slice f s.pos s.length.toNat)[(x - s.address).toNat]?).getD (ram x) := by
  rw [Section.load, store, List.getD_eq_getElem?_getD]

/-- RAM after copying sections in order: the last one to cover an address decides. -/
theorem loadAll_apply (ss : List Section) (ram : Space) (x : UInt32) :
    loadAll f ss ram x = (lastByte f x ss).getD (ram x) := by
  induction ss generalizing ram with
  | nil => rfl
  | cons s ss ih =>
    show loadAll f ss (s.load f ram) x = _
    rw [ih, load_apply, lastByte]
    cases lastByte f x ss <;> rfl

theorem lastByte_of_not_mem {ss : List Section} {x : UInt32} (h : ∀ s ∈ ss, x ∉ s.ramSpan) :
    lastByte f x ss = none := by
  induction ss with
  | nil => rfl
  | cons s ss ih =>
    have hout : s.length.toNat ≤ (x - s.address).toNat := Nat.le_of_not_lt (h s (by simp))
    rw [lastByte, ih fun t ht => h t (by simp [ht]), List.getElem?_eq_none (by simpa using hout)]
    rfl

/-- Sections that do not overlap all stand in RAM once they are copied. -/
theorem lastByte_of_pairwise {ss : List Section}
    (h : ss.Pairwise fun s t => Disjoint s.ramSpan t.ramSpan) {s : Section} (hs : s ∈ ss) {i : ℕ}
    (hi : i < s.length.toNat) :
    lastByte f (s.address + UInt32.ofNat i) ss = some (f (s.pos + UInt32.ofNat i)) := by
  have hx : s.address + UInt32.ofNat i ∈ s.ramSpan := add_mem_span hi
  induction ss with
  | nil => simp at hs
  | cons t ts ih =>
    obtain ⟨hhead, htail⟩ := List.pairwise_cons.mp h
    rw [lastByte]
    rcases List.mem_cons.mp hs with rfl | hs
    · have hnone := lastByte_of_not_mem (f := f) fun u hu hmem =>
        Set.disjoint_left.mp (hhead u hu) hx hmem
      have hlt : i < 2 ^ 32 := hi.trans s.length.toNat_lt
      rw [hnone, Option.none_or, add_ofNat_sub_self, Nat.mod_eq_of_lt hlt, slice_getElem? _ _ _ _ hi]
    · rw [ih htail hs]
      rfl

theorem load_holds (h : RamDisjoint f a) (ram : Space) : Holds f a (load f a ram) := by
  intro s hs i hi
  rw [load, loadAll_apply, lastByte_of_pairwise h hs hi]
  rfl

end Image

namespace Bootloader

variable {md5 : List UInt8 → Digest} {f : Space} {s : Boot} {n : Part} {button : Bool}

end Bootloader

end Esp8266At
