import Gatekeeper.Proofs.Baseline.Store
import Gatekeeper.Proofs.Number.DecimalText
import Gatekeeper.Proofs.Number.DecimalValue
import Gatekeeper.Proofs.Text.Utf8

/-! What a stored ratio is read back as. The ratio comes back with every digit that was stored; and it
comes back as long as its file and the directories on the way to it stay. -/

namespace Gatekeeper

open Number Text

namespace Baseline

/-- A ratio that was stored is read back with all its digits. -/
theorem ofBytes_toBytes {ratio : Decimal} (hunit : ratio.inUnit = true)
    (hbounded : ratio.isBounded = true) : ofBytes (toBytes ratio) = .ok ratio := by
  have hplain : ∀ c ∈ ratio.chars, IsPlain c := Decimal.isPlain_of_mem_chars
  have htext : (ratio.text ++ "\n").toList = ratio.chars ++ ['\n'] := by
    rw [String.toList_append, Decimal.text, String.toList_ofList]
    rfl
  have htrim : trim (ratio.chars ++ ['\n']) = ratio.chars := by
    apply trim_of_isPlain hplain
    rw [List.forall_mem_singleton]
    decide
  rw [ofBytes, toBytes, encodeUtf8, htext, decodeUtf8?_flatMap]
  simp only
  rw [htrim, Numeral.ofChars?_chars hbounded, Option.bind_some, Numeral.inUnit?, if_pos hunit]

open Disk Files

/-- Whether a path leads to a ratio that can be loaded, or names a location without a file. -/
def IsStored (disk : Disk) (path : Path) : Option Decimal → Prop
  | some ratio => load disk path = .ok (some ratio)
  | none => disk.bytes? (nominal disk.home path) = none

theorem load_of_locate {disk : Disk} {path : Path} {place : Location} (h : locate disk path = .ok place) :
    load disk path = match disk.bytes? place with
      | some bytes => match ofBytes bytes with
        | .ok ratio => .ok (some ratio)
        | .error content => .error (.corrupt content)
      | none => .ok none := by
  rw [load, Files.lookup, h, bytes?]
  rcases hnode : disk.node? place with _ | _ | ⟨id, executable, bytes⟩
  · simp only [hnode]
  · simp only [hnode]
  · cases hbytes : ofBytes bytes <;> simp only [hnode, hbytes]

theorem bytes?_of_load_eq_some {disk : Disk} {path : Path} {ratio : Decimal}
    (h : load disk path = .ok (some ratio)) :
    ∃ place bytes, locate disk path = .ok place ∧ disk.bytes? place = some bytes ∧
      ofBytes bytes = .ok ratio := by
  cases hlocate : locate disk path with
  | error cause =>
      rw [load, Files.lookup, hlocate] at h
      cases cause <;> cases h
  | ok place =>
      rw [load_of_locate hlocate] at h
      split at h
      · rename_i bytes hbytes
        split at h
        · rename_i hratio
          cases h
          exact ⟨place, bytes, rfl, hbytes, hratio⟩
        · cases h
      · cases h

theorem inUnit_of_ofBytes_eq_ok {bytes : List UInt8} {ratio : Decimal} (h : ofBytes bytes = .ok ratio) :
    ratio.inUnit = true := by
  rw [ofBytes] at h
  split at h
  · cases h
  · split at h
    · rename_i hratio
      cases h
      obtain ⟨numeral, -, hunit⟩ := Option.bind_eq_some_iff.mp hratio
      exact (Numeral.inUnit?_eq_some_iff.mp hunit).2
    · cases h

theorem inUnit_of_load_eq_some {disk : Disk} {path : Path} {ratio : Decimal}
    (h : load disk path = .ok (some ratio)) : ratio.inUnit = true := by
  obtain ⟨_, _, -, -, hratio⟩ := bytes?_of_load_eq_some h
  exact inUnit_of_ofBytes_eq_ok hratio

/-- Without a file there is nothing to load: nothing is found, or the path is too long to be looked up. -/
theorem load_of_bytes?_eq_none {disk : Disk} {path : Path}
    (h : disk.bytes? (nominal disk.home path) = none) :
    load disk path = .ok none ∨ load disk path = .error (.file .nameTooLong) := by
  cases hlocate : locate disk path with
  | ok place =>
      rw [← eq_nominal_of_locate hlocate] at h
      rw [load_of_locate hlocate, h]
      exact .inl rfl
  | error cause =>
      rw [load, Files.lookup, hlocate]
      cases cause
      case nameTooLong => exact .inr rfl
      all_goals exact .inl rfl

theorem load_ne_corrupt_of_isStored {disk : Disk} {path : Path} {stored : Option Decimal}
    (h : IsStored disk path stored) (content : String) : load disk path ≠ .error (.corrupt content) := by
  cases stored with
  | some ratio =>
      rw [show load disk path = .ok (some ratio) from h]
      nofun
  | none => rcases load_of_bytes?_eq_none h with hload | hload <;> rw [hload] <;> nofun

theorem isStored_of_holds {disk : Disk} {path : Path} {ratio : Decimal} (hunit : ratio.inUnit = true)
    (hbounded : ratio.isBounded = true) (h : Holds disk path ratio) : IsStored disk path (some ratio) := by
  obtain ⟨hlocate, hbytes⟩ := h
  rw [IsStored, load_of_locate hlocate, hbytes]
  simp only
  rw [ofBytes_toBytes hunit hbounded]

/-- What is stored stays stored as long as its location and the directories on the way to it stay. -/
theorem isStored_of_stays {disk later : Disk} {path : Path} {stored : Option Decimal}
    (h : IsStored disk path stored) (hhome : later.home = disk.home)
    (hplace : Stays (disk.node? (nominal disk.home path)) (later.node? (nominal disk.home path)))
    (hroute : ∀ left ∈ route disk.home path, StaysDirectory (disk.node? left) (later.node? left)) :
    IsStored later path stored := by
  cases stored with
  | none =>
      rw [IsStored, hhome, bytes?_of_stays hplace]
      exact h
  | some ratio =>
      obtain ⟨place, bytes, hlocate, -, -⟩ := bytes?_of_load_eq_some h
      have hlater : locate later path = .ok place :=
        locate_of_locate hlocate hhome fun left hleft =>
          hroute left hleft (directory_of_locate hlocate left hleft)
      rw [← eq_nominal_of_locate hlocate] at hplace
      rw [IsStored, load_of_locate hlater, bytes?_of_stays hplace, ← load_of_locate hlocate]
      exact h

end Baseline

end Gatekeeper
