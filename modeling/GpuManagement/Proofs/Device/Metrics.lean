import GpuManagement.Device.Metrics
import GpuManagement.Proofs.Data.Outcome

/-!
# The driver's layout of a metrics table

The driver hands over a record as it lies in its memory: the members one after the other, each at
the next multiple of its own width, and whatever was there before in the holes between them.
`layOut` is that rule, for any list of members; it knows no offsets. `GpuMetrics.decode` reads at
fixed offsets, and `GpuMetrics.decode_layOut_and_refusals` says that these are the places of the
rule: a record that was laid out is read back, whatever stands in its holes and after its end, and
everything else is refused for the first thing that is wrong with it.
-/

namespace GpuManagement

/-! ## Laying out -/

/-- A number that takes so many bytes of a record. -/
structure Member where
  width : Nat
  value : Nat

/-- The first multiple of a width from an offset on. -/
def aligned (width offset : Nat) : Nat := (offset + width - 1) / width * width

/-- Members from an offset on, each at the next multiple of its width, the least significant byte
first. `hole` fills what lies between them. -/
def layOut (hole : Nat → UInt8) : Nat → List Member → Bytes
  | _, [] => []
  | offset, m :: rest =>
    (List.range' offset (aligned m.width offset - offset)).map hole ++
      (Bytes.ofNat m.width m.value ++ layOut hole (aligned m.width offset + m.width) rest)

/-- Members with the offsets that they come to stand at. -/
def placed : Nat → List Member → List (Nat × Member)
  | _, [] => []
  | offset, m :: rest =>
    (aligned m.width offset, m) :: placed (aligned m.width offset + m.width) rest

/-- The numbers of members stand at the places that the rule gives them. -/
def HasMembers (b : Bytes) (offset : Nat) (members : List Member) : Prop :=
  ∀ entry ∈ placed offset members,
    b.numberAt entry.2.width entry.1 = entry.2.value % Nat.pow 256 entry.2.width

/-- The offset after the last member. -/
def layOutEnd : Nat → List Member → Nat
  | offset, [] => offset
  | offset, m :: rest => layOutEnd (aligned m.width offset + m.width) rest

theorem placed_append (offset : Nat) (front back : List Member) :
    placed offset (front ++ back) =
      placed offset front ++ placed (layOutEnd offset front) back := by
  induction front generalizing offset with
  | nil => rfl
  | cons m front ih => rw [List.cons_append, placed, placed, layOutEnd, ih, List.cons_append]

theorem hasMembers_append {b : Bytes} {offset : Nat} {front back : List Member} :
    HasMembers b offset (front ++ back) ↔
      HasMembers b offset front ∧ HasMembers b (layOutEnd offset front) back := by
  unfold HasMembers
  rw [placed_append, List.forall_mem_append]

theorem le_aligned {width : Nat} (positive : 0 < width) (offset : Nat) :
    offset ≤ aligned width offset := by
  unfold aligned
  have whole := Nat.div_add_mod (offset + width - 1) width
  have rest := Nat.mod_lt (offset + width - 1) positive
  rw [Nat.mul_comm] at whole
  omega

theorem le_layOutEnd (offset : Nat) {members : List Member}
    (positive : ∀ m ∈ members, 0 < m.width) :
    offset ≤ layOutEnd offset members := by
  induction members generalizing offset with
  | nil => exact Nat.le_refl _
  | cons m rest ih =>
    have here := le_aligned (positive m List.mem_cons_self) offset
    have later := ih (aligned m.width offset + m.width) fun m hm =>
      positive m (List.mem_cons_of_mem _ hm)
    exact Nat.le_trans (Nat.le_trans here (Nat.le_add_right _ _)) later

theorem length_layOut (hole : Nat → UInt8) (offset : Nat) {members : List Member}
    (positive : ∀ m ∈ members, 0 < m.width) :
    offset + (layOut hole offset members).length = layOutEnd offset members := by
  induction members generalizing offset with
  | nil => rfl
  | cons m rest ih =>
    have here := le_aligned (positive m List.mem_cons_self) offset
    have later := ih (aligned m.width offset + m.width) fun m hm =>
      positive m (List.mem_cons_of_mem _ hm)
    rw [layOut, layOutEnd, ← later]
    simp only [List.length_append, List.length_map, List.length_range', Bytes.length_ofNat]
    omega

/-- **Every member stands at its place**, whatever the holes hold and whatever follows. -/
theorem hasMembers_of_layOut {b rest : Bytes} {hole : Nat → UInt8} {offset : Nat}
    {members : List Member} (positive : ∀ m ∈ members, 0 < m.width)
    (h : b.drop offset = layOut hole offset members ++ rest) : HasMembers b offset members := by
  induction members generalizing offset with
  | nil =>
    intro entry he
    cases he
  | cons m members ih =>
    have gap : offset + (aligned m.width offset - offset) = aligned m.width offset :=
      Nat.add_sub_cancel' (le_aligned (positive m List.mem_cons_self) offset)
    rw [layOut, List.append_assoc] at h
    have here : b.drop (aligned m.width offset) = Bytes.ofNat m.width m.value ++
        (layOut hole (aligned m.width offset + m.width) members ++ rest) := by
      have skip : ((List.range' offset (aligned m.width offset - offset)).map hole).length =
          aligned m.width offset - offset := by
        rw [List.length_map, List.length_range']
      rw [← gap, ← List.drop_drop, h, List.drop_left' skip, gap, List.append_assoc]
    intro entry he
    rcases List.mem_cons.mp he with rfl | he
    · show Bytes.toNat ((b.drop (aligned m.width offset)).take m.width) = _
      rw [here, List.take_left' (Bytes.length_ofNat _ _), Bytes.toNat_ofNat]
    · refine ih (fun m hm => positive m (List.mem_cons_of_mem _ hm)) ?_ entry he
      rw [← List.drop_drop, here, List.drop_left' (Bytes.length_ofNat _ _)]

namespace Bytes

/-- Bytes are those of the number that they write. -/
theorem ofNat_toNat (b : Bytes) : ofNat b.length (toNat b) = b := by
  induction b with
  | nil => rfl
  | cons x b ih =>
    have small := x.toNat_lt
    have low : UInt8.ofNat (x.toNat + 256 * toNat b) = x := by
      apply UInt8.toNat_inj.mp
      rw [UInt8.toNat_ofNat']
      omega
    have high : (x.toNat + 256 * toNat b) / 256 = toNat b := by omega
    rw [toNat, List.length_cons, ofNat, low, high, ih]

theorem toNat_lt (b : Bytes) : toNat b < Nat.pow 256 b.length := by
  induction b with
  | nil => exact Nat.one_pos
  | cons x b ih =>
    have small := x.toNat_lt
    have step : Nat.pow 256 (b.length + 1) = Nat.pow 256 b.length * 256 := rfl
    rw [toNat, List.length_cons, step]
    omega

theorem numberAt_lt (b : Bytes) (width offset : Nat) :
    b.numberAt width offset < Nat.pow 256 width := by
  refine Nat.lt_of_lt_of_le (toNat_lt _) (Nat.pow_le_pow_right (by decide) ?_)
  rw [List.length_take]
  exact Nat.min_le_left _ _

theorem toNat_half (b : Bytes) (offset : Nat) : (b.half offset).toNat = b.numberAt 2 offset :=
  UInt16.toNat_ofNat_of_lt' (b.numberAt_lt 2 offset)

theorem toNat_word (b : Bytes) (offset : Nat) : (b.word offset).toNat = b.numberAt 4 offset :=
  UInt32.toNat_ofNat_of_lt' (b.numberAt_lt 4 offset)

theorem toNat_double (b : Bytes) (offset : Nat) : (b.double offset).toNat = b.numberAt 8 offset :=
  UInt64.toNat_ofNat_of_lt' (b.numberAt_lt 8 offset)

end Bytes

/-- **Bytes with the members at their places are the members laid out**, the holes filled with what
stands there. -/
theorem layOut_of_numberAt {b : Bytes} {offset : Nat} {members : List Member}
    (positive : ∀ m ∈ members, 0 < m.width) (long : layOutEnd offset members ≤ b.length)
    (h : ∀ entry ∈ placed offset members, b.numberAt entry.2.width entry.1 = entry.2.value) :
    b.drop offset =
      layOut (fun i => b.getD i 0) offset members ++ b.drop (layOutEnd offset members) := by
  induction members generalizing offset with
  | nil => rfl
  | cons m members ih =>
    have later : ∀ m ∈ members, 0 < m.width := fun m hm => positive m (List.mem_cons_of_mem _ hm)
    have here := le_aligned (positive m List.mem_cons_self) offset
    have within := Nat.le_trans (le_layOutEnd (aligned m.width offset + m.width) later) long
    have gap : (b.drop offset).take (aligned m.width offset - offset) =
        (List.range' offset (aligned m.width offset - offset)).map fun i => b.getD i 0 := by
      apply List.ext_getElem
      · rw [List.length_take, List.length_drop, List.length_map, List.length_range']
        omega
      · intro i below _
        rw [List.length_take, List.length_drop] at below
        rw [List.getElem_take, List.getElem_drop, List.getElem_map, List.getElem_range',
          Nat.one_mul, List.getD_eq_getElem?_getD, List.getElem?_eq_getElem (by omega),
          Option.getD_some]
    have number : (b.drop (aligned m.width offset)).take m.width = Bytes.ofNat m.width m.value := by
      have whole : ((b.drop (aligned m.width offset)).take m.width).length = m.width := by
        rw [List.length_take, List.length_drop]
        omega
      have value : Bytes.toNat ((b.drop (aligned m.width offset)).take m.width) = m.value :=
        h _ List.mem_cons_self
      have same := Bytes.ofNat_toNat ((b.drop (aligned m.width offset)).take m.width)
      rw [whole, value] at same
      exact same.symm
    have rest := ih later long fun entry he => h entry (List.mem_cons_of_mem _ he)
    calc b.drop offset
        = (b.drop offset).take (aligned m.width offset - offset) ++
            b.drop (aligned m.width offset) := by
          have split :=
            List.take_append_drop (aligned m.width offset - offset) (b.drop offset)
          rw [List.drop_drop, Nat.add_sub_cancel' here] at split
          exact split.symm
      _ = (b.drop offset).take (aligned m.width offset - offset) ++
            ((b.drop (aligned m.width offset)).take m.width ++
              b.drop (aligned m.width offset + m.width)) := by
          rw [← List.drop_drop, List.take_append_drop]
      _ = layOut (fun i => b.getD i 0) offset (m :: members) ++
            b.drop (layOutEnd offset (m :: members)) := by
          rw [gap, number, rest, layOut, layOutEnd, List.append_assoc, List.append_assoc]

theorem half_ofNat_mod (x : UInt16) : UInt16.ofNat (x.toNat % Nat.pow 256 2) = x := by
  rw [show x.toNat % Nat.pow 256 2 = x.toNat from Nat.mod_eq_of_lt x.toNat_lt, UInt16.ofNat_toNat]

theorem word_ofNat_mod (x : UInt32) : UInt32.ofNat (x.toNat % Nat.pow 256 4) = x := by
  rw [show x.toNat % Nat.pow 256 4 = x.toNat from Nat.mod_eq_of_lt x.toNat_lt, UInt32.ofNat_toNat]

theorem double_ofNat_mod (x : UInt64) : UInt64.ofNat (x.toNat % Nat.pow 256 8) = x := by
  rw [show x.toNat % Nat.pow 256 8 = x.toNat from Nat.mod_eq_of_lt x.toNat_lt, UInt64.ofNat_toNat]

/-! ## The three layouts -/

/-- The format and the content number of a layout. -/
def MetricsLayout.version : MetricsLayout → UInt8 × UInt8
  | v11 => (1, 1)
  | v12 => (1, 2)
  | v13 => (1, 3)

namespace MetricsHeader

variable {b : Bytes} {layout : MetricsLayout}

theorem read_eq_fail (short : b.length < 4) : read b = .fail .unexpectedSize := by
  match b, short with
  | [], _ | [_], _ | [_, _], _ | [_, _, _], _ => rfl
  | _ :: _ :: _ :: _ :: _, short =>
    simp only [List.length_cons] at short
    omega

theorem read_eq_ok (long : 4 ≤ b.length) :
    ∃ header, read b = .ok header ∧ header.size = b.half 0 ∧
      b[2]? = some header.format ∧ b[3]? = some header.content := by
  match b, long with
  | _ :: _ :: format :: content :: _, _ => exact ⟨_, rfl, rfl, rfl, rfl⟩
  | [], long | [_], long | [_, _], long | [_, _, _], long =>
    simp only [List.length_cons, List.length_nil] at long
    omega

theorem layout?_eq_some_iff {header : MetricsHeader} :
    header.layout? = some layout ↔ (header.format, header.content) = layout.version := by
  unfold layout?
  constructor
  · intro h
    split at h
    · rename_i format
      split at h
      · rename_i content
        cases h
        rw [format, content]
        rfl
      · split at h
        · rename_i content
          cases h
          rw [format, content]
          rfl
        · split at h
          · rename_i content
            cases h
            rw [format, content]
            rfl
          · cases h
    · cases h
  · intro h
    obtain ⟨format, content⟩ := Prod.mk.inj h
    rw [format, content]
    cases layout <;> rfl

end MetricsHeader

namespace GpuMetrics

/-- The members that every layout has, in their order. -/
def commonMembers (m : GpuMetrics) : List Member :=
  [⟨2, m.header.size.toNat⟩, ⟨1, m.header.format.toNat⟩, ⟨1, m.header.content.toNat⟩,
    ⟨2, m.temperatureEdge.toNat⟩, ⟨2, m.temperatureHotspot.toNat⟩, ⟨2, m.temperatureMem.toNat⟩,
    ⟨2, m.temperatureVrgfx.toNat⟩, ⟨2, m.temperatureVrsoc.toNat⟩, ⟨2, m.temperatureVrmem.toNat⟩,
    ⟨2, m.averageGfxActivity.toNat⟩, ⟨2, m.averageUmcActivity.toNat⟩,
    ⟨2, m.averageMmActivity.toNat⟩, ⟨2, m.averageSocketPower.toNat⟩,
    ⟨8, m.energyAccumulator.toNat⟩, ⟨8, m.systemClockCounter.toNat⟩,
    ⟨2, m.averageGfxclk.toNat⟩, ⟨2, m.averageSocclk.toNat⟩, ⟨2, m.averageUclk.toNat⟩,
    ⟨2, m.averageVclk0.toNat⟩, ⟨2, m.averageDclk0.toNat⟩, ⟨2, m.averageVclk1.toNat⟩,
    ⟨2, m.averageDclk1.toNat⟩, ⟨2, m.currentGfxclk.toNat⟩, ⟨2, m.currentSocclk.toNat⟩,
    ⟨2, m.currentUclk.toNat⟩, ⟨2, m.currentVclk0.toNat⟩, ⟨2, m.currentDclk0.toNat⟩,
    ⟨2, m.currentVclk1.toNat⟩, ⟨2, m.currentDclk1.toNat⟩, ⟨4, m.throttleStatus.toNat⟩,
    ⟨2, m.currentFanSpeed.toNat⟩, ⟨2, m.pcieLinkWidth.toNat⟩, ⟨2, m.pcieLinkSpeed.toNat⟩,
    ⟨4, m.gfxActivityAcc.toNat⟩, ⟨4, m.memActivityAcc.toNat⟩, ⟨2, m.temperatureHbm0.toNat⟩,
    ⟨2, m.temperatureHbm1.toNat⟩, ⟨2, m.temperatureHbm2.toNat⟩, ⟨2, m.temperatureHbm3.toNat⟩]

/-- The members that a layout has after the common ones. -/
def laterMembers (m : GpuMetrics) : MetricsLayout → List Member
  | .v11 => []
  | .v12 => [⟨8, m.firmwareTimestamp.toNat⟩]
  | .v13 =>
    [⟨8, m.firmwareTimestamp.toNat⟩, ⟨2, m.voltageSoc.toNat⟩, ⟨2, m.voltageGfx.toNat⟩,
      ⟨2, m.voltageMem.toNat⟩, ⟨8, m.indepThrottleStatus.toNat⟩]

/-- The members of a layout in their order. The paddings of the record are no members: they lie in
the holes. -/
def members (layout : MetricsLayout) (m : GpuMetrics) : List Member :=
  m.commonMembers ++ m.laterMembers layout

/-- The record is one of a layout: its header says so, and what the layout lacks is zero. -/
structure IsCanonical (layout : MetricsLayout) (m : GpuMetrics) : Prop where
  version : (m.header.format, m.header.content) = layout.version
  padding : m.padding = 0 ∧ m.padding1 = 0
  timestamp : layout = .v11 → m.firmwareTimestamp = 0
  latest : layout ≠ .v13 → m.voltageSoc = 0 ∧ m.voltageGfx = 0 ∧ m.voltageMem = 0 ∧
    m.indepThrottleStatus = 0

variable {layout : MetricsLayout} {m : GpuMetrics} {b : Bytes}

theorem width_pos (layout : MetricsLayout) (m : GpuMetrics) :
    ∀ member ∈ members layout m, 0 < member.width := by
  cases layout <;>
    simp only [members, commonMembers, laterMembers, List.cons_append, List.nil_append,
      List.append_nil, List.forall_mem_cons, List.not_mem_nil, false_implies, implies_true,
      Nat.zero_lt_succ, and_self]

/-- The rule gives a layout its size. -/
theorem length_layOut_members (hole : Nat → UInt8) (layout : MetricsLayout) (m : GpuMetrics) :
    (layOut hole 0 (members layout m)).length = layout.size := by
  have total := length_layOut hole 0 (width_pos layout m)
  rw [Nat.zero_add] at total
  rw [total]
  cases layout <;> cbv

/-- The fields of every layout are read at the places of the common members. -/
theorem ofShortest_eq
    (h : HasMembers b 0 m.commonMembers) :
    ofShortest m.header b =
      { m with
        padding := 0, padding1 := 0, firmwareTimestamp := 0, voltageSoc := 0, voltageGfx := 0
        voltageMem := 0, indepThrottleStatus := 0 } := by
  simp only [HasMembers, commonMembers, placed, aligned, List.forall_mem_cons, Nat.reduceAdd,
    Nat.reduceSub, Nat.reduceDiv, Nat.reduceMul] at h
  simp only [ofShortest, Bytes.half, Bytes.word, Bytes.double, h, half_ofNat_mod,
    word_ofNat_mod, double_ofNat_mod]

/-- **A record whose members stand at their places is read back.** -/
theorem ofLayout_eq (canonical : IsCanonical layout m)
    (h : HasMembers b 0 (members layout m)) :
    ofLayout layout m.header b = m := by
  have start : layOutEnd 0 m.commonMembers = 96 := by cbv
  obtain ⟨common, later⟩ := hasMembers_append.mp h
  rw [start] at later
  obtain ⟨_, ⟨padding, padding1⟩, timestamp, latest⟩ := canonical
  unfold ofLayout
  rw [ofShortest_eq common]
  cases layout with
  | v11 =>
    have early := timestamp rfl
    obtain ⟨soc, gfx, mem, indep⟩ := latest (by decide)
    cases m
    simp only at padding padding1 early soc gfx mem indep
    simp only [padding, padding1, early, soc, gfx, mem, indep]
  | v12 =>
    obtain ⟨soc, gfx, mem, indep⟩ := latest (by decide)
    simp only [HasMembers, laterMembers, placed, aligned, List.forall_mem_cons, Nat.reduceAdd,
      Nat.reduceSub, Nat.reduceDiv, Nat.reduceMul] at later
    cases m
    simp only at padding padding1 soc gfx mem indep
    simp only [Bytes.double, later, double_ofNat_mod, padding, padding1, soc, gfx, mem, indep]
  | v13 =>
    simp only [HasMembers, laterMembers, placed, aligned, List.forall_mem_cons, Nat.reduceAdd,
      Nat.reduceSub, Nat.reduceDiv, Nat.reduceMul] at later
    cases m
    simp only at padding padding1
    simp only [Bytes.half, Bytes.double, later, half_ofNat_mod, double_ofNat_mod,
      padding, padding1]

/-! ## Headers -/

/-- The bytes that name the layout name this one. -/
def HasVersion (layout : MetricsLayout) (b : Bytes) : Prop :=
  b[2]? = some layout.version.1 ∧ b[3]? = some layout.version.2

theorem numberAt_one {i : Nat} {x : UInt8} (h : b[i]? = some x) : b.numberAt 1 i = x.toNat := by
  obtain ⟨within, rfl⟩ := List.getElem?_eq_some_iff.mp h
  unfold Bytes.numberAt
  rw [List.drop_eq_getElem_cons within]
  rfl

/-- A header that stands at its place is read back. -/
theorem header_eq {header : MetricsHeader} (size : header.size = b.half 0)
    (format : b[2]? = some header.format) (content : b[3]? = some header.content)
    (h : HasMembers b 0 m.commonMembers) :
    header = m.header := by
  simp only [HasMembers, commonMembers, placed, aligned, List.forall_mem_cons, Nat.reduceAdd,
    Nat.reduceSub, Nat.reduceDiv, Nat.reduceMul] at h
  obtain ⟨hsize, hformat, hcontent, _⟩ := h
  have one : ∀ x : UInt8, x.toNat % Nat.pow 256 1 = x.toNat := fun x => Nat.mod_eq_of_lt x.toNat_lt
  rw [numberAt_one format, one, UInt8.toNat_inj] at hformat
  rw [numberAt_one content, one, UInt8.toNat_inj] at hcontent
  rw [Bytes.half, hsize, half_ofNat_mod] at size
  obtain ⟨_, _, _⟩ := header
  simp only at size hformat hcontent
  rw [size, hformat, hcontent]

/-- **Decoding undoes laying out.** -/
theorem decode_layOut (canonical : IsCanonical layout m) (hole : Nat → UInt8) (rest : Bytes) :
    decode (layOut hole 0 (members layout m) ++ rest) = .ok (layout, m) := by
  generalize hb : layOut hole 0 (members layout m) ++ rest = b
  have long : layout.size ≤ b.length := by
    rw [← hb, List.length_append, length_layOut_members]
    exact Nat.le_add_right _ _
  have four : 4 ≤ b.length := Nat.le_trans (by cases layout <;> decide) long
  have found : HasMembers b 0 (members layout m) :=
    hasMembers_of_layOut (width_pos layout m) (b.drop_zero.trans hb.symm)
  obtain ⟨header, hr, size, format, content⟩ := MetricsHeader.read_eq_ok four
  have same : header = m.header := header_eq size format content (hasMembers_append.mp found).1
  subst same
  have known := MetricsHeader.layout?_eq_some_iff.mpr canonical.version
  simp only [decode, hr, known, Outcome.ok_bind]
  rw [if_neg (Nat.not_lt.mpr long), ofLayout_eq canonical found]

/-! ## Decoding -/

theorem hasVersion_iff {header : MetricsHeader} (format : b[2]? = some header.format)
    (content : b[3]? = some header.content) :
    HasVersion layout b ↔ header.layout? = some layout := by
  unfold HasVersion
  rw [MetricsHeader.layout?_eq_some_iff, format, content, Option.some.injEq, Option.some.injEq,
    Prod.ext_iff]

/-- What becomes of bytes that have a header. -/
theorem decode_of_header (long : 4 ≤ b.length) :
    (∃ layout, HasVersion layout b ∧ ∃ header, header.layout? = some layout ∧
      header.size = b.half 0 ∧ b[2]? = some header.format ∧ b[3]? = some header.content ∧
      decode b = if b.length < layout.size then .fail .unexpectedSize
        else .ok (layout, ofLayout layout header b)) ∨
    (∀ layout, ¬ HasVersion layout b) ∧ decode b = .fail .notSupported := by
  obtain ⟨header, hr, size, format, content⟩ := MetricsHeader.read_eq_ok long
  cases hl : header.layout? with
  | some layout =>
    refine .inl ⟨layout, (hasVersion_iff format content).mpr hl, header, hl, size, format, content,
      ?_⟩
    simp only [decode, hr, hl, Outcome.ok_bind]
  | none =>
    refine .inr ⟨fun layout version => ?_, ?_⟩
    · rw [hasVersion_iff format content, hl] at version
      cases version
    · simp only [decode, hr, hl, Outcome.ok_bind]

/-- The members of what was read stand at their places. -/
theorem numberAt_ofLayout {header : MetricsHeader} (size : header.size = b.half 0)
    (format : b[2]? = some header.format) (content : b[3]? = some header.content) :
    ∀ entry ∈ placed 0 (members layout (ofLayout layout header b)),
      b.numberAt entry.2.width entry.1 = entry.2.value := by
  cases layout <;>
    simp only [members, commonMembers, laterMembers, ofLayout, ofShortest, List.cons_append,
      List.nil_append, List.append_nil, placed, aligned, List.forall_mem_cons, Nat.reduceAdd,
      Nat.reduceSub, Nat.reduceDiv, Nat.reduceMul, size, Bytes.toNat_half, Bytes.toNat_word,
      Bytes.toNat_double, numberAt_one format, numberAt_one content, List.not_mem_nil,
      false_implies, implies_true, and_self]

/-- What was read of a layout is a record of it. -/
theorem isCanonical_ofLayout {header : MetricsHeader} (known : header.layout? = some layout) :
    IsCanonical layout (ofLayout layout header b) := by
  have version := MetricsHeader.layout?_eq_some_iff.mp known
  cases layout with
  | v11 => exact ⟨version, ⟨rfl, rfl⟩, fun _ => rfl, fun _ => ⟨rfl, rfl, rfl, rfl⟩⟩
  | v12 => exact ⟨version, ⟨rfl, rfl⟩, fun e => (by cases e), fun _ => ⟨rfl, rfl, rfl, rfl⟩⟩
  | v13 => exact ⟨version, ⟨rfl, rfl⟩, fun e => (by cases e), fun ne => absurd rfl ne⟩

/-- Bytes that are long enough for the layout they name are a record that was laid out, and it is
read. -/
theorem exists_decode (version : HasVersion layout b) (long : layout.size ≤ b.length) :
    ∃ m, decode b = .ok (layout, m) ∧ IsCanonical layout m ∧
      ∃ hole, b = layOut hole 0 (members layout m) ++ b.drop layout.size := by
  have four : 4 ≤ b.length := Nat.le_trans (by cases layout <;> decide) long
  rcases decode_of_header four with ⟨layout', version', header, known, size, format, content, h⟩ |
    ⟨unknown, _⟩
  · have same := (hasVersion_iff format content).mp version
    rw [known] at same
    cases same
    have positive := width_pos layout (ofLayout layout header b)
    have total : layOutEnd 0 (members layout (ofLayout layout header b)) = layout.size := by
      rw [← length_layOut_members (fun _ => 0), ← length_layOut _ 0 positive, Nat.zero_add]
    have laid := layOut_of_numberAt positive (total ▸ long) (numberAt_ofLayout size format content)
    rw [List.drop_zero, total] at laid
    exact ⟨_, h.trans (if_neg (Nat.not_lt.mpr long)), isCanonical_ofLayout known, _, laid⟩
  · exact absurd version (unknown layout)

/-- **Decoding undoes the driver's layout, and refuses everything else.** A record that was laid out
is read back, whatever its holes hold and whatever follows. Bytes without a header and bytes that
end before their layout does have the wrong size, a layout that is not known is refused at any
length, and all other bytes are a record that was laid out. -/
theorem decode_layOut_and_refusals :
    (∀ layout m hole rest, IsCanonical layout m →
      (layOut hole 0 (members layout m)).length = layout.size ∧
        decode (layOut hole 0 (members layout m) ++ rest) = .ok (layout, m)) ∧
    ∀ b : Bytes,
      (b.length < MetricsHeader.byteSize → decode b = .fail .unexpectedSize) ∧
      (MetricsHeader.byteSize ≤ b.length → (∀ layout, ¬ HasVersion layout b) →
        decode b = .fail .notSupported) ∧
      ∀ layout, HasVersion layout b →
        (b.length < layout.size → decode b = .fail .unexpectedSize) ∧
        (layout.size ≤ b.length → ∃ m, decode b = .ok (layout, m) ∧ IsCanonical layout m ∧
          ∃ hole, b = layOut hole 0 (members layout m) ++ b.drop layout.size) := by
  refine ⟨fun layout m hole rest canonical =>
    ⟨length_layOut_members hole layout m, decode_layOut canonical hole rest⟩, fun b => ⟨?_, ?_, ?_⟩⟩
  · intro short
    unfold decode
    rw [MetricsHeader.read_eq_fail short]
    rfl
  · intro long unknown
    rcases decode_of_header long with ⟨layout, version, _⟩ | ⟨_, h⟩
    · exact absurd version (unknown layout)
    · exact h
  · intro layout version
    refine ⟨fun short => ?_, exists_decode version⟩
    have four : 4 ≤ b.length := (List.getElem?_eq_some_iff.mp version.2).1
    rcases decode_of_header four with ⟨layout', _, header, known, _, format, content, h⟩ |
      ⟨unknown, _⟩
    · have same := (hasVersion_iff format content).mp version
      rw [known] at same
      cases same
      exact h.trans (if_pos short)
    · exact absurd version (unknown layout)

/-- The bytes of a table of the longest layout, each its own place, and what is read of them. -/
theorem decode_laidOut_bytes :
    ∃ m, IsCanonical .v13 m ∧ m.temperatureHbm3 = 0x5F5E ∧ m.indepThrottleStatus ≠ 0 ∧
      decode (layOut (fun _ => 0xFF) 0 (members .v13 m) ++ [1, 2, 3]) = .ok (.v13, m) := by
  have version : HasVersion .v13 ([120, 0, 1, 3] ++ (List.range' 4 116).map UInt8.ofNat) :=
    ⟨rfl, rfl⟩
  obtain ⟨m, h, canonical, _⟩ :=
    ((decode_layOut_and_refusals.2 _).2.2 .v13 version).2 (by decide)
  have read : (decode ([120, 0, 1, 3] ++ (List.range' 4 116).map UInt8.ofNat)).toOption.map
      (fun r => (r.2.temperatureHbm3, r.2.indepThrottleStatus)) =
      some (0x5F5E, 0x7776757473727170) := by decide
  rw [h] at read
  obtain ⟨hbm, indep⟩ := Prod.mk.inj (Option.some.inj read)
  refine ⟨m, canonical, hbm, fun zero => ?_, (decode_layOut_and_refusals.1 _ m _ _ canonical).2⟩
  rw [zero] at indep
  cases indep

end GpuMetrics

end GpuManagement
