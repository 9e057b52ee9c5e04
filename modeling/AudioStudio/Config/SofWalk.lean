import AudioStudio.Config.SofBlocks

/-!
# Walking the blocks

A reader of the blobs that goes by their headers, as the firmware does.  It finds the
configuration exactly if every index, count and matrix entry fits its field.
-/

namespace AudioStudio.Config.SofBasic

open AudioStudio.ByteReader
open AudioStudio.LittleEndian
open AudioStudio.Loader
open AudioStudio.Rpc

/-! ## The reader -/

/-- The bytes that are missing to a multiple of four. -/
def padding (size : Nat) : Nat :=
  (4 - size % 4) % 4

def readInt16 : ByteReader Unit Int16 := do
  let word ← readLe16
  return word.toInt16

def readInt32 : ByteReader Unit Int32 := do
  let word ← readLe32
  return word.toInt32

def readFilter : ByteReader Unit FilterBlock := do
  let index ← readLe16
  let type ← readLe16
  let _ ← readLe16
  let count ← readLe16
  let _ ← readLe16
  let size ← readLe16
  if size.toNat ≠ count.toNat * 2 then fun _ => .error ()
  else do
    let coefficients ← times readInt16 count.toNat
    let _ ← takeBytes (padding (12 + size.toNat))
    return { index := index.toNat, type, coefficients }

/-- The size of a route's body without its padding. -/
def bodySize (inputs outputs : Nat) : Nat :=
  2 * inputs + 2 * outputs + 2 * (outputs * inputs)

def readRoute : ByteReader Unit RouteBlock := do
  let index ← readLe32
  let ins ← readLe32
  let outs ← readLe32
  let size ← readLe32
  if size.toNat ≠ bodySize ins.toNat outs.toNat + padding (bodySize ins.toNat outs.toNat) then
    fun _ => .error ()
  else do
    let inputs ← times readLe16 ins.toNat
    let outputs ← times readLe16 outs.toNat
    let matrix ← times (times readInt16 ins.toNat) outs.toNat
    let _ ← takeBytes (padding (bodySize ins.toNat outs.toNat))
    return { index := index.toNat, inputs, outputs, matrix := matrix.map (List.map Int16.toInt) }

def readDsp : ByteReader Unit (Nat × DspBlock) := do
  let filterCount ← readLe32
  let routeCount ← readLe32
  let size ← readLe32
  let filters ← times readFilter filterCount.toNat
  let routes ← times readRoute routeCount.toNat
  return (size.toNat, { filters, routes })

/-- The filters and routes of a block that has nothing behind them. -/
def walkDsp (block : Bytes) : Option DspBlock :=
  match readDsp block with
  | .ok ((size, config), []) => if size + 12 = block.length then some config else none
  | _ => none

def readMapping : ByteReader Unit MappingBlock := do
  let index ← readLe32
  let ins ← readLe32
  let outs ← readLe32
  let _ ← takeBytes 20
  let inputs ← times readLe16 ins.toNat
  let outputs ← times readLe16 outs.toNat
  let _ ← takeBytes (padding (32 + 2 * ins.toNat + 2 * outs.toNat))
  let matrix ← times (times readInt32 ins.toNat) outs.toNat
  return { index := index.toNat, inputs, outputs, matrix }

/-- Mappings up to the end; each takes at least a byte. -/
def walkMappings : Nat → Bytes → Option (List MappingBlock)
  | _, [] => some []
  | 0, _ => none
  | bound + 1, block =>
      match readMapping block with
      | .ok (mapping, rest) => (walkMappings bound rest).map (mapping :: ·)
      | .error _ => none

def walkRemap (block : Bytes) : Option (List MappingBlock) :=
  walkMappings block.length block

/-! ## What fits -/

structure FilterBlock.Fits (block : FilterBlock) : Prop where
  index : block.index < 2 ^ 16
  coefficients : block.coefficients.length < 2 ^ 15

structure RouteBlock.Fits (block : RouteBlock) : Prop where
  index : block.index < 2 ^ 32
  matrix : ∀ row ∈ block.matrix, ∀ entry ∈ row, -2 ^ 15 ≤ entry ∧ entry < 2 ^ 15

structure DspBlock.Fits (block : DspBlock) : Prop where
  filters : ∀ filter ∈ block.filters, filter.Fits
  routes : ∀ route ∈ block.routes, route.Fits

def MappingBlock.Fits (block : MappingBlock) : Prop :=
  block.index < 2 ^ 32

/-! ## Whatever is read fits -/

theorem readFilter_fits : Ensures readFilter FilterBlock.Fits := by
  refine ensures_bind _ fun index => ensures_bind _ fun type => ensures_bind _ fun _ =>
    ensures_bind _ fun count => ensures_bind _ fun _ => ensures_bind _ fun size =>
      ensures_unless fun hsize => ?_
  refine (ensures_times (ensures_true readInt16) count.toNat).bind fun coefficients hcount =>
    ensures_bind _ fun _ => ensures_pure ⟨index.toNat_lt, ?_⟩
  have hlt := size.toNat_lt
  have hlength := hcount.1
  dsimp only
  omega

theorem readRoute_fits : Ensures readRoute RouteBlock.Fits := by
  refine ensures_bind _ fun index => ensures_bind _ fun ins => ensures_bind _ fun outs =>
    ensures_bind _ fun size => ensures_unless fun _ => ensures_bind _ fun inputs =>
      ensures_bind _ fun outputs => ensures_bind _ fun matrix => ensures_bind _ fun _ =>
        ensures_pure ⟨index.toNat_lt, ?_⟩
  intro row hrow entry hentry
  obtain ⟨values, -, rfl⟩ := List.mem_map.mp hrow
  obtain ⟨value, -, rfl⟩ := List.mem_map.mp hentry
  exact ⟨value.le_toInt, value.toInt_lt⟩

variable {block : Bytes}

theorem walkDsp_fits {config : DspBlock} (hwalk : walkDsp block = some config) : config.Fits := by
  have hread : Ensures readDsp fun read => read.2.Fits :=
    ensures_bind _ fun filterCount => ensures_bind _ fun routeCount => ensures_bind _ fun size =>
      (ensures_times readFilter_fits _).bind fun filters hfilters =>
        (ensures_times readRoute_fits _).bind fun routes hroutes =>
          ensures_pure ⟨hfilters.2, hroutes.2⟩
  rw [walkDsp] at hwalk
  split at hwalk
  · next size config' hblock =>
      split at hwalk
      · cases hwalk
        exact hread _ _ _ hblock
      · cases hwalk
  · cases hwalk

theorem readMapping_fits : Ensures readMapping MappingBlock.Fits :=
  ensures_bind _ fun index => ensures_bind _ fun _ => ensures_bind _ fun _ =>
    ensures_bind _ fun _ => ensures_bind _ fun _ => ensures_bind _ fun _ => ensures_bind _ fun _ =>
      ensures_bind _ fun _ => ensures_pure index.toNat_lt

variable {bound : Nat} {mappings : List MappingBlock}

theorem walkMappings_fits (hwalk : walkMappings bound block = some mappings) :
    ∀ mapping ∈ mappings, mapping.Fits := by
  induction bound generalizing block mappings with
  | zero =>
      cases block with
      | nil =>
          cases hwalk
          exact List.forall_mem_nil _
      | cons byte rest => cases hwalk
  | succ bound ih =>
      cases block with
      | nil =>
          cases hwalk
          exact List.forall_mem_nil _
      | cons byte rest =>
          rw [walkMappings] at hwalk
          split at hwalk
          · next mapping rest' hread =>
              obtain ⟨others, hothers, rfl⟩ := Option.map_eq_some_iff.mp hwalk
              exact List.forall_mem_cons.mpr ⟨readMapping_fits _ _ _ hread, ih hothers⟩
          · cases hwalk
          · exact List.cons_ne_nil _ _

/-! ## What fits is read -/

variable {value : Nat}

theorem toUInt16_toNat (hfits : value < 2 ^ 16) : value.toUInt16.toNat = value := by
  rw [Nat.toUInt16, UInt16.toNat_ofNat']
  exact Nat.mod_eq_of_lt hfits

theorem toUInt32_toNat (hfits : value < 2 ^ 32) : value.toUInt32.toNat = value := by
  rw [Nat.toUInt32, UInt32.toNat_ofNat']
  exact Nat.mod_eq_of_lt hfits

theorem align4_eq (out : Bytes) : align4 out = out ++ List.replicate (padding out.length) 0 :=
  rfl

theorem align4_length (out : Bytes) : (align4 out).length = out.length + padding out.length := by
  rw [align4_eq, List.length_append, List.length_replicate]

theorem reads_padding (size : Nat) :
    Reads (takeBytes (padding size)) (List.replicate (padding size) 0)
      (List.replicate (padding size) 0) :=
  reads_takeBytes List.length_replicate

theorem reads_readInt16 (value : Int16) : Reads readInt16 (le16 value.toUInt16) value :=
  (reads_readLe16 value.toUInt16).bind_last (reads_pure _)

theorem reads_readInt32 (value : Int32) : Reads readInt32 (le32Signed value) value :=
  (reads_readLe32 value.toUInt32).bind_last (reads_pure _)

variable {α : Type} {write : α → Bytes}

variable {reader : ByteReader Unit α}

/-- As many values as the list has, each written by itself. -/
theorem reads_list (hreader : ∀ value, Reads reader (write value) value) {values : List α}
    {count : Nat} (hcount : values.length = count) :
    Reads (times reader count) (values.flatMap write) values := by
  have hreads := @reads_times Unit α α reader write id values fun value _ => hreader value
  rwa [hcount, List.map_id] at hreads

variable {inputs outputs : List UInt16} {matrix : List (List α)}

theorem reads_rows (hreader : ∀ value, Reads reader (write value) value)
    (hmatrix : Rectangular inputs outputs matrix) :
    Reads (times (times reader inputs.length) outputs.length) (matrix.flatten.flatMap write)
      matrix := by
  have hreads := @reads_times Unit (List α) (List α) (times reader inputs.length)
    (fun row => row.flatMap write) id matrix
    fun row hrow => reads_list hreader (hmatrix.2 row hrow)
  have hflat : matrix.flatten.flatMap write = matrix.flatMap fun row => row.flatMap write := by
    rw [← List.flatMap_id, List.flatMap_assoc]
    rfl
  rwa [hmatrix.1, List.map_id, ← hflat] at hreads

theorem flatMap_le16_length (values : List UInt16) : (values.flatMap le16).length = 2 * values.length := by
  rw [List.length_flatMap]
  simp [Nat.mul_comm]

theorem flatMap_le16_int16_length (values : List Int16) :
    (values.flatMap fun value => le16 value.toUInt16).length = 2 * values.length := by
  rw [List.length_flatMap]
  simp [Nat.mul_comm]

theorem FilterBlock.layout_eq (block : FilterBlock) :
    block.layout = le16 block.index.toUInt16 ++ (le16 block.type ++ (le16 0 ++
      (le16 block.coefficients.length.toUInt16 ++ (le16 0 ++
        (le16 (block.coefficients.length * 2).toUInt16 ++
          ((block.coefficients.flatMap fun coef => le16 coef.toUInt16) ++
            List.replicate (padding (12 + block.coefficients.length * 2)) 0)))))) := by
  rw [layout, align4_eq]
  simp only [List.append_assoc, List.length_append, le16_length, flatMap_le16_int16_length]
  rw [show 2 + (2 + (2 + (2 + (2 + (2 + 2 * block.coefficients.length))))) =
    12 + block.coefficients.length * 2 by omega]

theorem reads_readFilter {block : FilterBlock} (hfits : block.Fits) :
    Reads readFilter block.layout block := by
  have hindex := toUInt16_toNat hfits.index
  have hcoefficients := hfits.coefficients
  have hcount : block.coefficients.length.toUInt16.toNat = block.coefficients.length :=
    toUInt16_toNat (by omega)
  have hsize : (block.coefficients.length * 2).toUInt16.toNat = block.coefficients.length * 2 :=
    toUInt16_toNat (by omega)
  rw [block.layout_eq]
  refine (reads_readLe16 _).bind ((reads_readLe16 _).bind ((reads_readLe16 _).bind
    ((reads_readLe16 _).bind ((reads_readLe16 _).bind ((reads_readLe16 _).bind ?_)))))
  rw [hcount, hsize, if_neg (not_not.mpr rfl), hindex]
  exact (reads_list reads_readInt16 rfl).bind ((reads_padding _).bind_last (reads_pure block))

theorem Rectangular.flatten_length (hmatrix : Rectangular inputs outputs matrix) :
    matrix.flatten.length = outputs.length * inputs.length := by
  have hlengths : matrix.map List.length = List.replicate matrix.length inputs.length := by
    apply List.eq_replicate_iff.mpr
    refine ⟨List.length_map _, ?_⟩
    intro length hlength
    obtain ⟨row, hrow, rfl⟩ := List.mem_map.mp hlength
    exact hmatrix.2 row hrow
  rw [List.length_flatten, hlengths, List.sum_replicate, hmatrix.1]
  rfl

variable {β : Type}

theorem Rectangular.map (hmatrix : Rectangular inputs outputs matrix) (cast : α → β) :
    Rectangular inputs outputs (matrix.map (List.map cast)) := by
  refine ⟨(List.length_map _).trans hmatrix.1, ?_⟩
  intro row hrow
  obtain ⟨source, hsource, rfl⟩ := List.mem_map.mp hrow
  exact (List.length_map _).trans (hmatrix.2 source hsource)

theorem RouteBlock.body_eq {block : RouteBlock}
    (hmatrix : Rectangular block.inputs block.outputs block.matrix) :
    block.body = block.inputs.flatMap le16 ++ (block.outputs.flatMap le16 ++
      (((block.matrix.map (List.map Int16.ofInt)).flatten.flatMap fun entry =>
          le16 entry.toUInt16) ++
        List.replicate (padding (bodySize block.inputs.length block.outputs.length)) 0)) := by
  have hentries : (block.matrix.flatten.flatMap fun entry => le16 (Int16.ofInt entry).toUInt16) =
      (block.matrix.map (List.map Int16.ofInt)).flatten.flatMap fun entry =>
        le16 entry.toUInt16 := by
    rw [← List.map_flatten, List.flatMap_map]
  rw [body, align4_eq, hentries]
  simp only [List.append_assoc, List.length_append, flatMap_le16_length,
    flatMap_le16_int16_length, (hmatrix.map Int16.ofInt).flatten_length]
  rw [bodySize, Nat.add_assoc]

theorem RouteBlock.body_length {block : RouteBlock}
    (hmatrix : Rectangular block.inputs block.outputs block.matrix) :
    block.body.length = bodySize block.inputs.length block.outputs.length +
      padding (bodySize block.inputs.length block.outputs.length) := by
  rw [block.body_eq hmatrix]
  simp only [List.length_append, flatMap_le16_length, flatMap_le16_int16_length,
    (hmatrix.map Int16.ofInt).flatten_length, List.length_replicate]
  unfold bodySize
  omega

theorem RouteBlock.layout_eq {block : RouteBlock}
    (hmatrix : Rectangular block.inputs block.outputs block.matrix) :
    block.layout = le32 block.index.toUInt32 ++ (le32 block.inputs.length.toUInt32 ++
      (le32 block.outputs.length.toUInt32 ++ (le32 block.body.length.toUInt32 ++ block.body))) := by
  have haligned : padding (4 + (4 + (4 + (4 + block.body.length)))) = 0 := by
    rw [block.body_length hmatrix]
    unfold padding
    omega
  rw [layout, align4_eq]
  simp only [List.append_assoc, List.length_append, le32_length]
  rw [haligned, List.replicate_zero, List.append_nil]

theorem toInt_ofInt_rows {matrix : List (List Int)}
    (hfits : ∀ row ∈ matrix, ∀ entry ∈ row, -2 ^ 15 ≤ entry ∧ entry < 2 ^ 15) :
    (matrix.map (List.map Int16.ofInt)).map (List.map Int16.toInt) = matrix := by
  rw [List.map_map, List.map_congr_left, List.map_id]
  intro row hrow
  rw [Function.comp_apply, List.map_map, List.map_congr_left, List.map_id]
  · rfl
  · intro entry hentry
    obtain ⟨hlow, hhigh⟩ := hfits row hrow entry hentry
    exact Int16.toInt_ofInt_of_le hlow hhigh

theorem reads_readRoute {block : RouteBlock}
    (hmatrix : Rectangular block.inputs block.outputs block.matrix)
    (hsmall : block.layout.length < 2 ^ 32) (hfits : block.Fits) :
    Reads readRoute block.layout block := by
  have hbody := block.body_length hmatrix
  have hlayout := congrArg List.length (block.layout_eq hmatrix)
  simp only [List.length_append, le32_length] at hlayout
  have hbound := hbody
  unfold bodySize at hbound
  have hins : block.inputs.length.toUInt32.toNat = block.inputs.length := toUInt32_toNat (by omega)
  have houts : block.outputs.length.toUInt32.toNat = block.outputs.length :=
    toUInt32_toNat (by omega)
  have hsize : block.body.length.toUInt32.toNat = block.body.length := toUInt32_toNat (by omega)
  rw [block.layout_eq hmatrix]
  refine (reads_readLe32 _).bind ((reads_readLe32 _).bind ((reads_readLe32 _).bind
    ((reads_readLe32 _).bind ?_)))
  rw [hins, houts, hsize, if_neg (not_not.mpr hbody), toUInt32_toNat hfits.index,
    block.body_eq hmatrix]
  have hreturned : Reads (ε := Unit) (pure
      { block with
        matrix := (block.matrix.map (List.map Int16.ofInt)).map (List.map Int16.toInt) })
      [] block := by
    rw [toInt_ofInt_rows hfits.matrix]
    exact reads_pure block
  exact (reads_list reads_readLe16 rfl).bind ((reads_list reads_readLe16 rfl).bind
    ((reads_rows reads_readInt16 (hmatrix.map Int16.ofInt)).bind
      ((reads_padding _).bind_last hreturned)))

variable {items : List α}

theorem length_le_flatMap (hwrite : ∀ item ∈ items, 1 ≤ (write item).length) :
    items.length ≤ (items.flatMap write).length := by
  induction items with
  | nil => exact Nat.le_refl 0
  | cons item items ih =>
      obtain ⟨hfirst, hothers⟩ := List.forall_mem_cons.mp hwrite
      have hrest := ih hothers
      rw [List.flatMap_cons, List.length_append, List.length_cons]
      omega

theorem length_le_of_mem_flatMap (write : α → Bytes) {item : α} (hmem : item ∈ items) :
    (write item).length ≤ (items.flatMap write).length := by
  obtain ⟨before, behind, rfl⟩ := List.append_of_mem hmem
  rw [List.flatMap_append, List.flatMap_cons, List.length_append, List.length_append]
  omega

theorem FilterBlock.layout_pos (block : FilterBlock) : 1 ≤ block.layout.length := by
  rw [block.layout_eq, List.length_append, le16_length]
  omega

theorem RouteBlock.layout_pos (block : RouteBlock) : 1 ≤ block.layout.length := by
  rw [layout, align4_length]
  simp only [List.length_append, le32_length]
  omega

theorem walkDsp_layout {block : DspBlock}
    (hmatrices : ∀ route ∈ block.routes, Rectangular route.inputs route.outputs route.matrix)
    (hsmall : block.layout.length < 2 ^ 32) (hfits : block.Fits) :
    walkDsp block.layout = some block := by
  obtain ⟨filters, routes⟩ := block
  have hlength : (DspBlock.mk filters routes).layout.length =
      12 + ((filters.flatMap FilterBlock.layout).length +
        (routes.flatMap RouteBlock.layout).length) := by
    simp only [DspBlock.layout, List.length_append, le32_length]
  have hfilters := length_le_flatMap fun filter (_ : filter ∈ filters) => filter.layout_pos
  have hroutes := length_le_flatMap fun route (_ : route ∈ routes) => route.layout_pos
  have hdata : (filters.flatMap FilterBlock.layout ++
      routes.flatMap RouteBlock.layout).length.toUInt32.toNat =
      (filters.flatMap FilterBlock.layout ++ routes.flatMap RouteBlock.layout).length :=
    toUInt32_toNat (by rw [List.length_append]; omega)
  have hread : Reads readDsp (DspBlock.mk filters routes).layout
      ((filters.flatMap FilterBlock.layout ++ routes.flatMap RouteBlock.layout).length,
        DspBlock.mk filters routes) := by
    have hreadFilters := @reads_times Unit FilterBlock FilterBlock readFilter FilterBlock.layout id
      filters fun filter hfilter => reads_readFilter (hfits.filters filter hfilter)
    have hreadRoutes := @reads_times Unit RouteBlock RouteBlock readRoute RouteBlock.layout id routes
      fun route hroute => by
        have hpart := length_le_of_mem_flatMap RouteBlock.layout hroute
        exact reads_readRoute (hmatrices route hroute) (by omega) (hfits.routes route hroute)
    rw [List.map_id] at hreadFilters hreadRoutes
    simp only [DspBlock.layout, List.append_assoc]
    refine (reads_readLe32 _).bind ((reads_readLe32 _).bind ((reads_readLe32 _).bind ?_))
    rw [toUInt32_toNat (show filters.length < 2 ^ 32 by omega),
      toUInt32_toNat (show routes.length < 2 ^ 32 by omega), hdata]
    exact hreadFilters.bind (hreadRoutes.bind_last (reads_pure _))
  have hwhole := hread []
  rw [List.append_nil] at hwhole
  rw [walkDsp, hwhole]
  dsimp only
  rw [if_pos]
  rw [hlength, List.length_append]
  omega

theorem MappingBlock.layout_eq (block : MappingBlock) :
    block.layout = le32 block.index.toUInt32 ++ (le32 block.inputs.length.toUInt32 ++
      (le32 block.outputs.length.toUInt32 ++ ((List.replicate 5 (le32 0)).flatten ++
        (block.inputs.flatMap le16 ++ (block.outputs.flatMap le16 ++
          (List.replicate (padding (32 + 2 * block.inputs.length + 2 * block.outputs.length)) 0 ++
            block.matrix.flatten.flatMap le32Signed)))))) := by
  have hzeros : (List.replicate 5 (le32 0)).flatten.length = 20 := rfl
  rw [layout, align4_eq]
  simp only [List.append_assoc, List.length_append, le32_length, flatMap_le16_length, hzeros]
  rw [show 4 + (4 + (4 + (20 + (2 * block.inputs.length + 2 * block.outputs.length)))) =
    32 + 2 * block.inputs.length + 2 * block.outputs.length by omega]

theorem reads_readMapping {block : MappingBlock}
    (hmatrix : Rectangular block.inputs block.outputs block.matrix)
    (hsmall : block.layout.length < 2 ^ 32) (hfits : block.Fits) :
    Reads readMapping block.layout block := by
  have hlayout := congrArg List.length block.layout_eq
  simp only [List.length_append, le32_length, flatMap_le16_length] at hlayout
  have hins : block.inputs.length.toUInt32.toNat = block.inputs.length := toUInt32_toNat (by omega)
  have houts : block.outputs.length.toUInt32.toNat = block.outputs.length :=
    toUInt32_toNat (by omega)
  have hzeros : (List.replicate 5 (le32 0)).flatten.length = 20 := rfl
  rw [block.layout_eq]
  refine (reads_readLe32 _).bind ((reads_readLe32 _).bind ((reads_readLe32 _).bind
    ((reads_takeBytes hzeros).bind ?_)))
  rw [hins, houts, toUInt32_toNat hfits]
  exact (reads_list reads_readLe16 rfl).bind ((reads_list reads_readLe16 rfl).bind
    ((reads_padding _).bind ((reads_rows reads_readInt32 hmatrix).bind_last (reads_pure block))))

theorem MappingBlock.layout_ne_nil (block : MappingBlock) : block.layout ≠ [] := by
  rw [block.layout_eq]
  exact List.cons_ne_nil _ _

theorem walkMappings_layout
    (hmatrices : ∀ block ∈ mappings, Rectangular block.inputs block.outputs block.matrix)
    (hsmall : (mappings.flatMap MappingBlock.layout).length < 2 ^ 32)
    (hfits : ∀ block ∈ mappings, block.Fits)
    (hbound : (mappings.flatMap MappingBlock.layout).length ≤ bound) :
    walkMappings bound (mappings.flatMap MappingBlock.layout) = some mappings := by
  induction mappings generalizing bound with
  | nil => cases bound <;> rfl
  | cons mapping mappings ih =>
      obtain ⟨hmatrix, hmatrices⟩ := List.forall_mem_cons.mp hmatrices
      obtain ⟨hfirst, hfits⟩ := List.forall_mem_cons.mp hfits
      have hpositive := List.length_pos_iff.mpr mapping.layout_ne_nil
      rw [List.flatMap_cons] at hsmall hbound ⊢
      rw [List.length_append] at hsmall hbound
      cases bound with
      | zero => omega
      | succ bound =>
          have hread := reads_readMapping hmatrix (by omega) hfirst
            (mappings.flatMap MappingBlock.layout)
          rw [walkMappings, hread]
          · dsimp only
            rw [ih hmatrices (by omega) hfits (by omega)]
            rfl
          · intro hnil
            exact mapping.layout_ne_nil (List.append_eq_nil_iff.mp hnil).1

/-! ## The handler's blobs -/

/-- The header of 32 bytes. -/
def sofAbi : SofAbi where
  magic := kSofAbiMagic
  hdrSize := 32
  hdr payload :=
    { magic := word32 payload 0, type := word32 payload 4, size := word32 payload 8 }

theorem acControlPayloadData_wrapSofAbi (hsmall : block.length < 2 ^ 32) {control : AcControl}
    (hpayload : control.payload = wrapSofAbi block) :
    acControlPayloadData sofAbi control = .ok (some { data := block, type := 0 }) := by
  have hmagic : word32 (wrapSofAbi block) 0 = kSofAbiMagic := by
    simp only [wrapSofAbi, word32, byteAt, le32, List.cons_append, List.nil_append,
      List.getD_cons_zero, List.getD_cons_succ, of32_le32]
  have htype : word32 (wrapSofAbi block) 4 = 0 := by
    simp only [wrapSofAbi, word32, byteAt, le32, List.cons_append, List.nil_append,
      List.getD_cons_succ, List.getD_cons_zero]
    rfl
  have hsize : (word32 (wrapSofAbi block) 8).toNat = block.length := by
    rw [show word32 (wrapSofAbi block) 8 = block.length.toUInt32 by
      simp only [wrapSofAbi, word32, byteAt, le32, List.cons_append, List.nil_append,
        List.getD_cons_succ, List.getD_cons_zero, of32_le32]]
    exact toUInt32_toNat hsmall
  have hlength : (wrapSofAbi block).length = 32 + block.length := by
    simp only [wrapSofAbi, List.length_append, le32_length]
  have hdrop : (wrapSofAbi block).drop 32 = block := List.drop_left' rfl
  have hne : (wrapSofAbi block).isEmpty = false := rfl
  have hheader : sofAbi.hdrSize ≤ (wrapSofAbi block).length ∧
      (sofAbi.hdr (wrapSofAbi block)).magic = sofAbi.magic :=
    ⟨hlength ▸ Nat.le_add_right 32 _, hmagic⟩
  have hfits : ¬ (sofAbi.hdr (wrapSofAbi block)).size.toNat >
      (wrapSofAbi block).length - sofAbi.hdrSize := by
    change ¬ (word32 (wrapSofAbi block) 8).toNat > (wrapSofAbi block).length - 32
    omega
  rw [acControlPayloadData, hpayload, hne, if_neg Bool.false_ne_true, if_pos hheader, if_neg hfits]
  change Except.ok (some (ControlPayload.mk
    (((wrapSofAbi block).drop 32).take (word32 (wrapSofAbi block) 8).toNat)
    (word32 (wrapSofAbi block) 4))) = _
  rw [hsize, htype, hdrop, List.take_length]

/-- The document of a request: all values, or the preset of one. -/
def documentOf (config preset : JsonValue → Parsed JsonValue) (request : ModuleConfigRequest) :
    Parsed JsonValue := do
  let values ← parseText request.valuesJson
  if request.parameterId = asciiBytes "config" then config values
  else
    match values.member request.parameterId with
    | none => invalidArgument "parameter value missing: " request.parameterId
    | some value => preset value

variable {request : ModuleConfigRequest}

variable {config preset : JsonValue → Parsed JsonValue}

theorem documentOf_config {values : JsonValue} (hparse : parseText request.valuesJson = .ok values)
    (hconfig : request.parameterId = asciiBytes "config") :
    documentOf config preset request = config values := by
  rw [documentOf, hparse]
  exact if_pos hconfig

def dspDocument : ModuleConfigRequest → Parsed JsonValue :=
  documentOf dspFilterConfig dspFilterPreset

def remapDocument : ModuleConfigRequest → Parsed JsonValue :=
  documentOf (fun values => .ok (channelRemapConfig values)) channelRemapPreset

section Accepted

variable {D : Type} {x : Doubles D}

variable {blob : ModuleConfigBlob}

variable {moduleType : Bytes}

/-- An accepted request has a document, and its block is in the blob. -/
theorem exists_document {pack : JsonValue → Parsed Bytes}
    (hconfig : ∀ values, packConfig x moduleType values = (config values >>= pack))
    (hparam : ∀ parameterId value, packParam x moduleType parameterId value =
      (preset value >>= pack))
    (haccepted : packRuntimeParam x moduleType request = .ok blob) :
    ∃ document block, documentOf config preset request = .ok document ∧
      pack document = .ok block ∧ blob.data = wrapSofAbi block := by
  obtain ⟨-, -, values, block, hparse, hpack, rfl⟩ := packRuntimeParam_ok_iff.mp haccepted
  have hdocument : (documentOf config preset request >>= pack) = .ok block := by
    rw [documentOf, hparse]
    rw [packValues] at hpack
    split at hpack
    · cases hpack
    · change ((if request.parameterId = asciiBytes "config" then _ else _) >>= pack) = _
      split at hpack
      · next hid => rw [if_pos hid, ← hpack, hconfig]
      · next hid =>
          rw [if_neg hid]
          cases hvalue : values.member request.parameterId with
          | none =>
              rw [hvalue] at hpack
              cases hpack
          | some value =>
              rw [hvalue] at hpack
              rw [← hpack]
              exact (hparam request.parameterId value).symm
  obtain ⟨document, hread, hblock⟩ := bind_eq_ok hdocument
  exact ⟨document, block, hread, hblock, rfl⟩

/-- The loader hands out the block of a blob, and a walk over it finds a configuration. -/
structure Decodes {α : Type} (walk : Bytes → Option α) (blob block : Bytes) (config : α) :
    Prop where
  data : ∀ control : AcControl, control.payload = blob →
    acControlPayloadData sofAbi control = .ok (some { data := block, type := 0 })
  walked : walk block = some config

theorem exists_of_map {read : Parsed α} {layout : α → β} {result : β}
    (hread : read.map layout = .ok result) : ∃ value, read = .ok value ∧ layout value = result := by
  cases read with
  | error fault => cases hread
  | ok value => exact ⟨value, rfl, Except.ok.inj hread⟩

theorem small_of_blob {blob : Bytes} (hblob : blob = wrapSofAbi block)
    (hsmall : blob.length < 2 ^ 32) : block.length < 2 ^ 32 := by
  rw [hblob] at hsmall
  simp only [wrapSofAbi, List.length_append] at hsmall
  omega

/-- The filters and routes of an accepted request are found in its blob exactly if they fit. -/
theorem dsp_blob_iff
    (haccepted : packRuntimeParam x (asciiBytes "filter.dsp_filter") request = .ok blob)
    (hsmall : blob.data.length < 2 ^ 32) :
    ∃ document block config, dspDocument request = .ok document ∧
      packDspFilter x document = .ok block ∧ dspBlock x document = .ok config ∧
      (Decodes walkDsp blob.data block config ↔ config.Fits) := by
  have hconfig : ∀ values, packConfig x (asciiBytes "filter.dsp_filter") values =
      (dspFilterConfig values >>= packDspFilter x) := by
    intro values
    rw [packConfig, if_neg (by decide), if_neg (by decide),
      if_neg (by decide), if_pos rfl]
  have hparam : ∀ parameterId value, packParam x (asciiBytes "filter.dsp_filter") parameterId value =
      (dspFilterPreset value >>= packDspFilter x) := by
    intro parameterId value
    rw [packParam, if_neg (by decide), if_neg (by decide),
      if_neg (by decide), if_pos rfl]
  obtain ⟨document, block, hdocument, hblock, hblob⟩ := exists_document hconfig hparam haccepted
  have hlayout := hblock
  rw [packDspFilter_eq] at hlayout
  obtain ⟨config, hread, rfl⟩ := exists_of_map hlayout
  have hblock' := small_of_blob hblob hsmall
  refine ⟨document, config.layout, config, hdocument, hblock, hread, ?_⟩
  constructor
  · intro hdecodes
    exact walkDsp_fits hdecodes.walked
  · intro hfits
    exact ⟨fun control hcontrol => acControlPayloadData_wrapSofAbi hblock' (hcontrol.trans hblob),
      walkDsp_layout (dspBlock_rectangular x hread) hblock' hfits⟩

/-- The mappings of an accepted request are found in its blob exactly if they fit. -/
theorem remap_blob_iff (hremap : isChannelRemap moduleType = true)
    (haccepted : packRuntimeParam x moduleType request = .ok blob)
    (hsmall : blob.data.length < 2 ^ 32) :
    ∃ document block mappings, remapDocument request = .ok document ∧
      packChannelRemap x document = .ok block ∧ remapBlock x document = .ok mappings ∧
      (Decodes walkRemap blob.data block mappings ↔ ∀ mapping ∈ mappings, mapping.Fits) := by
  have hconfig : ∀ values, packConfig x moduleType values =
      ((Except.ok (channelRemapConfig values) : Parsed JsonValue) >>= packChannelRemap x) := by
    intro values
    rw [packConfig, if_pos hremap]
    rfl
  have hparam : ∀ parameterId value, packParam x moduleType parameterId value =
      (channelRemapPreset value >>= packChannelRemap x) := by
    intro parameterId value
    rw [packParam, if_pos hremap]
  obtain ⟨document, block, hdocument, hblock, hblob⟩ := exists_document hconfig hparam haccepted
  have hlayout := hblock
  rw [packChannelRemap_eq] at hlayout
  obtain ⟨mappings, hread, rfl⟩ := exists_of_map hlayout
  have hblock' := small_of_blob hblob hsmall
  refine ⟨document, mappings.flatMap MappingBlock.layout, mappings, hdocument, hblock, hread, ?_⟩
  constructor
  · intro hdecodes
    exact walkMappings_fits hdecodes.walked
  · intro hfits
    exact ⟨fun control hcontrol => acControlPayloadData_wrapSofAbi hblock' (hcontrol.trans hblob),
      walkMappings_layout (remapBlock_rectangular x hread) hblock' hfits (Nat.le_refl _)⟩

/-- What the blobs of both modules say is what they were made of, exactly if it fits. -/
theorem blobs_decode_iff (x : Doubles D) (request : ModuleConfigRequest) (blob : ModuleConfigBlob)
    (hsmall : blob.data.length < 2 ^ 32) :
    (packRuntimeParam x (asciiBytes "filter.dsp_filter") request = .ok blob →
      ∃ document block config, dspDocument request = .ok document ∧
        packDspFilter x document = .ok block ∧ dspBlock x document = .ok config ∧
        (Decodes walkDsp blob.data block config ↔ config.Fits)) ∧
    (∀ moduleType, isChannelRemap moduleType = true →
      packRuntimeParam x moduleType request = .ok blob →
      ∃ document block mappings, remapDocument request = .ok document ∧
        packChannelRemap x document = .ok block ∧ remapBlock x document = .ok mappings ∧
        (Decodes walkRemap blob.data block mappings ↔ ∀ mapping ∈ mappings, mapping.Fits)) :=
  ⟨fun haccepted => dsp_blob_iff haccepted hsmall,
    fun _ hremap haccepted => remap_blob_iff hremap haccepted hsmall⟩

end Accepted

/-! ## A filter of one index -/

/-- A filter that passes everything, and no route. -/
def bypassMembers (index : String) : List (String × JsonValue) :=
  [("filters", .array [recordValue [("index", .number (asciiBytes index)),
    ("type", .string (asciiBytes "bypass"))]]), ("routes", .array [])]

def bypassRequest (index : String) : ModuleConfigRequest where
  moduleType := asciiBytes "filter.dsp_filter"
  parameterId := asciiBytes "config"
  valuesJson := (recordValue [("config", recordValue (bypassMembers index))]).dump

def bypassConfig (index : Nat) : DspBlock where
  filters := [{ index, type := 0, coefficients := [] }]
  routes := []

theorem objectValue_record {object : JsonValue} {key : String}
    {members : List (String × JsonValue)}
    (hmember : object.member (asciiBytes key) = some (recordValue members).asRead) :
    objectValue object key = some (document members) := by
  rw [objectValue, hmember, document, recordValue, JsonValue.asRead]

theorem bypassRequest_document {index : String} (hindex : Parser.IsNumber (asciiBytes index)) :
    dspDocument (bypassRequest index) = .ok (document (bypassMembers index)) := by
  have hfilter : (recordValue [("index", .number (asciiBytes index)),
      ("type", .string (asciiBytes "bypass"))]).Spelled := by
    apply recordValue_spelled
    simp [JsonValue.Spelled, hindex]
  have hconfig : (recordValue (bypassMembers index)).Spelled := by
    apply recordValue_spelled
    simp [bypassMembers, JsonValue.Spelled, SpelledItems, hfilter]
  have hvalues : (recordValue [("config", recordValue (bypassMembers index))]).Spelled := by
    apply recordValue_spelled
    simp [hconfig]
  have hdistinct : Distinct ([("config", recordValue (bypassMembers index))].map Prod.fst) := by
    simp only [List.map_cons, List.map_nil]
    decide
  have hread : parseText (bypassRequest index).valuesJson = .ok _ := parseText_spelled hvalues
  rw [dspDocument, documentOf_config hread rfl, dspFilterConfig,
    objectValue_record (member_at hdistinct 0 rfl)]

/-- An index of 65536 is read as zero. -/
theorem wide_index_lost :
    dspDocument (bypassRequest "65536") = .ok (document (bypassMembers "65536")) ∧
      packRuntimeParam wholeDoubles (asciiBytes "filter.dsp_filter") (bypassRequest "65536") =
        .ok { format := asciiBytes "sof-ipc3-bytes-v1"
              data := wrapSofAbi (bypassConfig 65536).layout } ∧
      dspBlock wholeDoubles (document (bypassMembers "65536")) = .ok (bypassConfig 65536) ∧
      ∀ block, ¬ Decodes walkDsp (wrapSofAbi (bypassConfig 65536).layout) block
        (bypassConfig 65536) := by
  have hindex : Parser.IsNumber (asciiBytes "65536") := by
    rw [show asciiBytes "65536" = decimalText 65536 by decide +kernel]
    exact Parser.isNumber_decimalText 65536
  refine ⟨bypassRequest_document hindex, by decide +kernel, by decide +kernel, ?_⟩
  intro block hdecodes
  have hfits := (walkDsp_fits hdecodes.walked).filters _ List.mem_cons_self
  exact absurd hfits.index (by decide)

def monoRequest : ModuleConfigRequest where
  moduleType := asciiBytes "filter.channel_remap"
  parameterId := asciiBytes "layout"
  valuesJson := recordText [("layout", asciiBytes "\"mono_passthrough\"")]

def monoMapping : MappingBlock where
  index := 0
  inputs := [2]
  outputs := [2]
  matrix := [[134217728]]

theorem narrow_blobs_decode :
    (∃ document block config, dspDocument (bypassRequest "7") = .ok document ∧
      packDspFilter wholeDoubles document = .ok block ∧
      dspBlock wholeDoubles document = .ok config ∧
      (Decodes walkDsp (wrapSofAbi (bypassConfig 7).layout) block config ↔ config.Fits)) ∧
    ∃ document block mappings, remapDocument monoRequest = .ok document ∧
      packChannelRemap wholeDoubles document = .ok block ∧
      remapBlock wholeDoubles document = .ok mappings ∧
      (Decodes walkRemap (wrapSofAbi monoMapping.layout) block mappings ↔
        ∀ mapping ∈ mappings, mapping.Fits) := by
  constructor
  · exact (blobs_decode_iff wholeDoubles (bypassRequest "7")
      { format := asciiBytes "sof-ipc3-bytes-v1", data := wrapSofAbi (bypassConfig 7).layout }
      (by decide +kernel)).1 (by decide +kernel)
  · exact (blobs_decode_iff wholeDoubles monoRequest
      { format := asciiBytes "sof-ipc3-bytes-v1", data := wrapSofAbi monoMapping.layout }
      (by decide +kernel)).2 (asciiBytes "filter.channel_remap") (by decide +kernel)
      (by decide +kernel)

end AudioStudio.Config.SofBasic
