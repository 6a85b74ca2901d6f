import FleetOperator.Gateway.Adjustment
import FleetOperator.Proofs.OneApart

/-!
# One digit in a workload

A number stands in a document as its digits, and whatever stands before and
behind it stays where it is when one digit becomes another. That goes up from
the number through every list and every object around it (`DigitApart`), and a
digit is one byte. So when one digit of the number of pods changes, or one of
a port, then so does one byte of the canonical text
(`StatefulSet.OneDigitEdit.oneApart`).
-/

namespace FleetOperator

structure OtherDigit (c d : Char) : Prop where
  ne : c ≠ d
  left : c.isDigit = true
  right : d.isDigit = true

/-- Two whole numbers whose decimal texts are the same but for one digit. -/
def OneDigitApart (m n : Int) : Prop := OneApart OtherDigit (Json.intChars m) (Json.intChars n)

/-! ## The byte of a digit -/

theorem toNat_lt_of_isDigit {c : Char} (h : c.isDigit = true) : c.val.toNat < 128 := by
  rw [Char.isDigit, Bool.and_eq_true, decide_eq_true_eq, decide_eq_true_eq] at h
  have hle : c.val.toNat ≤ '9'.val.toNat := UInt32.le_iff_toNat_le.1 h.2
  exact Nat.lt_of_le_of_lt hle (by decide)

theorem utf8EncodeChar_of_isDigit {c : Char} (h : c.isDigit = true) :
    String.utf8EncodeChar c = [UInt8.ofNat c.val.toNat] := by
  have hlt := toNat_lt_of_isDigit h
  rw [String.utf8EncodeChar, if_pos (Nat.le_of_lt_succ hlt)]

theorem OtherDigit.bytes {c d : Char} (h : OtherDigit c d) :
    OneApart (· ≠ ·) (String.utf8EncodeChar c) (String.utf8EncodeChar d) := by
  rw [utf8EncodeChar_of_isDigit h.left, utf8EncodeChar_of_isDigit h.right]
  refine .head fun hbyte => h.ne ?_
  have hc := toNat_lt_of_isDigit h.left
  have hd := toNat_lt_of_isDigit h.right
  have hvalue := congrArg UInt8.toNat hbyte
  rw [UInt8.toNat_ofNat_of_lt' (Nat.lt_trans hc (by decide)),
    UInt8.toNat_ofNat_of_lt' (Nat.lt_trans hd (by decide))] at hvalue
  exact Char.ext (UInt32.toNat_inj.1 hvalue)

/-! ## Documents -/

namespace Json

/-- Two documents whose compact texts are the same but for one digit. -/
def DigitApart (value other : Json) : Prop := OneApart OtherDigit value.chars other.chars

/-- Members, or fields that are there, of one name. -/
inductive Named {α : Type} (R : α → α → Prop) : String × α → String × α → Prop
  | mk (name : String) {value other : α} (h : R value other) : Named R (name, value) (name, other)

theorem DigitApart.int {m n : Int} (h : OneDigitApart m n) : DigitApart (.int m) (.int n) := by
  rw [DigitApart, chars, chars]
  exact h

theorem itemChars_apart {items others : List Json} (h : OneApart DigitApart items others) :
    OneApart OtherDigit (itemChars items) (itemChars others) := by
  induction h with
  | head h =>
      rw [itemChars, itemChars]
      exact .tail (h.append_right _)
  | tail _ ih =>
      rw [itemChars, itemChars]
      exact ih.append_left _

theorem memberChars_apart {members others : List (String × Json)}
    (h : OneApart (Named DigitApart) members others) :
    OneApart OtherDigit (memberChars members) (memberChars others) := by
  induction h with
  | head h =>
      obtain ⟨name, h⟩ := h
      rw [memberChars, memberChars]
      exact (h.tail.append_left _).append_right _
  | tail _ ih =>
      rw [memberChars, memberChars]
      exact ih.append_left _

theorem DigitApart.arr {items others : List Json} (h : OneApart DigitApart items others) :
    DigitApart (.arr items) (.arr others) := by
  cases h with
  | head h =>
      rw [DigitApart, chars, chars]
      exact .tail (h.append_right _)
  | tail h =>
      rw [DigitApart, chars, chars]
      exact (itemChars_apart h).append_left _

theorem DigitApart.obj {members others : List (String × Json)}
    (h : OneApart (Named DigitApart) members others) : DigitApart (.obj members) (.obj others) := by
  cases h with
  | head h =>
      obtain ⟨name, h⟩ := h
      rw [DigitApart, chars, chars]
      exact (h.tail.append_left _).append_right _
  | tail h =>
      rw [DigitApart, chars, chars]
      exact (memberChars_apart h).append_left _

/-- Fields that are both there and differ in one digit. -/
inductive BothThere : Option Json → Option Json → Prop
  | mk {value other : Json} (h : DigitApart value other) : BothThere (some value) (some other)

theorem DigitApart.ofFields {fields others : List (String × Option Json)}
    (h : OneApart (Named BothThere) fields others) :
    DigitApart (.ofFields fields) (.ofFields others) := by
  refine .obj ?_
  induction h with
  | head h =>
      obtain ⟨name, h⟩ := h
      obtain ⟨h⟩ := h
      exact .head (.mk name h)
  | @tail field _ _ _ ih =>
      obtain ⟨name, written⟩ := field
      -- A field that is left out of one document is left out of both.
      cases written with
      | none => exact ih
      | some value => exact .tail ih

/-- A list with an item that changes is not empty, so it is written. -/
theorem BothThere.listUnlessEmpty {α : Type} {encode : α → Json} {items others : List α}
    (h : OneApart DigitApart (items.map encode) (others.map encode)) :
    BothThere (Json.listUnlessEmpty encode items) (Json.listUnlessEmpty encode others) := by
  cases items with
  | nil => cases h
  | cons item items =>
      cases others with
      | nil => cases h
      | cons other others => exact .mk (.arr h)

end Json

/-! ## Workloads -/

open Json

/-- Another container of which only the port that it is asked at differs, in one digit. -/
inductive Container.PortEdit (container : Container) : Container → Prop
  | mk {probe : Probe} {action : HttpGetAction} {port : UInt16}
      (hprobe : container.readinessProbe = some probe) (haction : probe.httpGet = some action)
      (h : OneDigitApart action.port.toNat port.toNat) :
      PortEdit container { container with
        readinessProbe := some { probe with httpGet := some { action with port } } }

theorem Container.PortEdit.apart {container other : Container} (h : container.PortEdit other) :
    DigitApart container.encode other.encode := by
  cases h with
  | @mk probe action port hprobe haction h =>
      have hport : DigitApart action.encode { action with port }.encode :=
        .ofFields (.tail (.head (.mk _ (.mk (.int h)))))
      have hget : DigitApart probe.encode
          { probe with httpGet := some { action with port } }.encode := by
        rw [Probe.encode, Probe.encode, haction]
        exact .ofFields (.head (.mk _ (.mk hport)))
      rw [Container.encode, Container.encode, hprobe]
      exact .ofFields (.tail (.tail (.tail (.tail (.tail (.tail (.tail (.tail
        (.head (.mk _ (.mk hget)))))))))))

namespace StatefulSet

/-- Another workload of which only the number of pods differs, in one digit, or one of the ports
that its containers are asked at. -/
inductive OneDigitEdit (workload : StatefulSet) : StatefulSet → Prop
  | replicas {m n : Int32} (hm : workload.spec.replicas = some m)
      (h : OneDigitApart m.toInt n.toInt) : OneDigitEdit workload (workload.withReplicas (some n))
  | port {containers : List Container}
      (h : OneApart Container.PortEdit workload.spec.template.spec.containers containers) :
      OneDigitEdit workload (workload.mapPod ({ · with containers }))
  | initPort {initContainers : List Container}
      (h : OneApart Container.PortEdit workload.spec.template.spec.initContainers
        initContainers) :
      OneDigitEdit workload (workload.mapPod ({ · with initContainers }))

theorem encode_apart {workload : StatefulSet} {spec : StatefulSetSpec}
    (h : DigitApart workload.spec.encode spec.encode) :
    DigitApart workload.encode { workload with spec }.encode :=
  .ofFields (.tail (.tail (.tail (.head (.mk _ (.mk h))))))

theorem encode_mapPod_apart {workload : StatefulSet} {f : PodSpec → PodSpec}
    (h : DigitApart workload.spec.template.spec.encode (f workload.spec.template.spec).encode) :
    DigitApart workload.encode (workload.mapPod f).encode := by
  have htemplate : DigitApart workload.spec.template.encode
      (workload.mapPod f).spec.template.encode := .ofFields (.tail (.head (.mk _ (.mk h))))
  exact encode_apart (.ofFields (.tail (.tail (.tail (.head (.mk _ (.mk htemplate)))))))

theorem OneDigitEdit.apart {workload other : StatefulSet} (h : workload.OneDigitEdit other) :
    DigitApart workload.encode other.encode := by
  cases h with
  | replicas hm h =>
      refine encode_apart ?_
      rw [StatefulSetSpec.encode, StatefulSetSpec.encode, hm]
      exact .ofFields (.head (.mk _ (.mk (.int h))))
  | port h =>
      exact encode_mapPod_apart (.ofFields (.tail (.head (.mk _ (.mk
        (.arr (h.map fun h => h.apart)))))))
  | initPort h =>
      exact encode_mapPod_apart (.ofFields (.head (.mk _
        (.listUnlessEmpty (h.map fun h => h.apart)))))

/-- One digit of a number in a workload is one byte of its canonical text. -/
theorem OneDigitEdit.oneApart {workload other : StatefulSet} (h : workload.OneDigitEdit other) :
    OneApart (· ≠ ·) (Text.bytes workload.canonicalText) (Text.bytes other.canonicalText) := by
  rw [canonicalText, canonicalText, Json.text, Json.text, Text.bytes_ofList, Text.bytes_ofList]
  exact h.apart.flatMap fun h => h.bytes

end StatefulSet

end FleetOperator
