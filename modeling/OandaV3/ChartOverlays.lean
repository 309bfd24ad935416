import OandaV3.Models

/-! # Overlays outside the visible range

`charting/renderer.py` goes through the overlays of a chart twice: `_build_omitted_layers` lists the
items whose price lies outside the visible range, and the drawing functions skip them.  The drawing asks
for every price whether its family is selected; the list asks it of the SMC families only.

* `mem_omittedItems`, `skipped_mem_drawOverlays`: what each of the two does with an item.
* `omitted_iff_skipped`: they agree exactly when every trade and order price outside the range belongs to
  a selected family. -/

namespace OandaV3

/-! ### The payload -/

/-- `SMC_SELECTOR_KEYS`. -/
inductive SmcSelectorKey where
  | orderblocks
  | struct
  | liquidity
deriving DecidableEq, Repr

/-- `TRADE_SELECTOR_KEYS`. -/
inductive TradeSelectorKey where
  | positions
  | orders
  | sl
  | tp
  | gslo
deriving DecidableEq, Repr

/-- `ResolvedChartSelection`, without the indicators. -/
structure ResolvedChartSelection where
  smc : List SmcSelectorKey
  trade : List TradeSelectorKey
deriving DecidableEq, Repr

/-- `OrderBlockAnnotation`. -/
structure OrderBlockAnnotation where
  instrument : String
  upperPrice : ℚ
  lowerPrice : ℚ
deriving DecidableEq, Repr

/-- `StructureAnnotation`. -/
structure StructureAnnotation where
  instrument : String
  level : Option ℚ
deriving DecidableEq, Repr

/-- `LiquidityAnnotation`. -/
structure LiquidityAnnotation where
  instrument : String
  price : ℚ
deriving DecidableEq, Repr

/-- `TradeOverlay`. -/
structure TradeOverlay where
  instrument : String
  tradeId : String
  openPrice : ℚ
  slPrice : Option ℚ
  tpPrice : Option ℚ
  gsloPrice : Option ℚ
deriving DecidableEq, Repr

/-- `PendingOrderOverlay`. -/
structure PendingOrderOverlay where
  instrument : String
  orderId : String
  price : ℚ
  stopLossPrice : Option ℚ
  takeProfitPrice : Option ℚ
  gsloPrice : Option ℚ
deriving DecidableEq, Repr

/-- What `ChartRenderPayload` says about the overlays. -/
structure ChartRenderPayload where
  overlaySelection : ResolvedChartSelection
  visiblePriceLow : ℚ
  visiblePriceHigh : ℚ
  orderBlockAnnotations : List OrderBlockAnnotation
  structureAnnotations : List StructureAnnotation
  liquidityAnnotations : List LiquidityAnnotation
  tradeOverlays : List TradeOverlay
  orderOverlays : List PendingOrderOverlay
deriving DecidableEq, Repr

/-! ### Items -/

/-- The prices of a trade or an order. -/
inductive PriceField where
  | entry
  | sl
  | tp
  | gslo
deriving DecidableEq, Repr

/-- The prices of a trade, in the order of the loop. -/
def TradeOverlay.prices (trade : TradeOverlay) : List (PriceField × Option ℚ) :=
  [(.entry, some trade.openPrice), (.sl, trade.slPrice), (.tp, trade.tpPrice),
   (.gslo, trade.gsloPrice)]

/-- The prices of an order, in the order of the loop. -/
def PendingOrderOverlay.prices (order : PendingOrderOverlay) : List (PriceField × Option ℚ) :=
  [(.entry, some order.price), (.sl, order.stopLossPrice), (.tp, order.takeProfitPrice),
   (.gslo, order.gsloPrice)]

/-- An item of the chart at a price, or over a range of prices. -/
inductive ChartItem where
  | orderblock (block : OrderBlockAnnotation)
  | struct ( annotation : StructureAnnotation) (level : ℚ)
  | liquidity ( annotation : LiquidityAnnotation)
  | trade (trade : TradeOverlay) (field : PriceField) (price : ℚ)
  | order (order : PendingOrderOverlay) (field : PriceField) (price : ℚ)
deriving DecidableEq, Repr

def PriceField.tradeLabel : PriceField → String
  | entry => "position"
  | sl => "sl"
  | tp => "tp"
  | gslo => "gslo"

def PriceField.orderLabel : PriceField → String
  | entry => "order"
  | sl => "order_sl"
  | tp => "order_tp"
  | gslo => "order_gslo"

def ChartItem.text (priceText : ℚ → String) : ChartItem → String
  | orderblock block => "orderblock:" ++ block.instrument ++ ":" ++ priceText block.lowerPrice ++ "-" ++
      priceText block.upperPrice
  | struct annotation level => "struct:" ++ annotation.instrument ++ ":" ++ priceText level
  | liquidity annotation => "liquidity:" ++ annotation.instrument ++ ":" ++ priceText annotation.price
  | trade overlay field price => field.tradeLabel ++ ":" ++ overlay.instrument ++ ":" ++
      overlay.tradeId ++ ":" ++ priceText price
  | order overlay field price => field.orderLabel ++ ":" ++ overlay.instrument ++ ":" ++
      overlay.orderId ++ ":" ++ priceText price

namespace ChartRenderPayload

/-- `_price_is_visible`. -/
def priceIsVisible (payload : ChartRenderPayload) (price : ℚ) : Bool :=
  decide (payload.visiblePriceLow ≤ price) && decide (price ≤ payload.visiblePriceHigh)

/-- `_range_intersects`. -/
def rangeIntersects (payload : ChartRenderPayload) (low high : ℚ) : Bool :=
  decide (payload.visiblePriceLow ≤ high) && decide (low ≤ payload.visiblePriceHigh)

/-! ### The list of omitted items -/

/-- The loop over the prices of one trade or order. -/
def omittedPrices (payload : ChartRenderPayload) (item : PriceField → ℚ → ChartItem)
    (prices : List (PriceField × Option ℚ)) : List ChartItem :=
  prices.flatMap fun (field, price) =>
    (price.toList.filter fun price => !payload.priceIsVisible price).map (item field)

/-- `_build_omitted_layers`, item by item. -/
def omittedItems (payload : ChartRenderPayload) : List ChartItem :=
  (if .orderblocks ∈ payload.overlaySelection.smc then
    (payload.orderBlockAnnotations.filter fun block =>
      !payload.rangeIntersects block.lowerPrice block.upperPrice).map .orderblock else []) ++
  (if .struct ∈ payload.overlaySelection.smc then
    payload.structureAnnotations.flatMap fun annotation =>
      ( annotation.level.toList.filter fun level => !payload.priceIsVisible level).map
        (.struct annotation) else []) ++
  (if .liquidity ∈ payload.overlaySelection.smc then
    (payload.liquidityAnnotations.filter fun annotation =>
      !payload.priceIsVisible annotation.price).map .liquidity else []) ++
  (payload.tradeOverlays.flatMap fun trade => payload.omittedPrices (.trade trade) trade.prices) ++
  payload.orderOverlays.flatMap fun order => payload.omittedPrices (.order order) order.prices

/-- `_build_omitted_layers`. -/
def buildOmittedLayers (priceText : ℚ → String) (payload : ChartRenderPayload) : List String :=
  payload.omittedItems.map (ChartItem.text priceText)

end ChartRenderPayload

/-! ### Drawing -/

/-- What the drawing code does with an item it comes to. -/
inductive DrawStep where
  | drawn (item : ChartItem)
  | skipped (item : ChartItem)
deriving DecidableEq, Repr

namespace ChartRenderPayload

/-- `_draw_visible_line`, and the same test in the loops over SMC levels. -/
def drawVisibleLine (payload : ChartRenderPayload) (item : ChartItem) (price : ℚ) : DrawStep :=
  if payload.priceIsVisible price then .drawn item else .skipped item

/-- `_draw_order_blocks`. -/
def drawOrderBlocks (payload : ChartRenderPayload) : List DrawStep :=
  if .orderblocks ∉ payload.overlaySelection.smc then []
  else payload.orderBlockAnnotations.map fun block =>
    if payload.rangeIntersects block.lowerPrice block.upperPrice then .drawn (.orderblock block)
    else .skipped (.orderblock block)

/-- A price is drawn when its key is selected and it is there. -/
def drawSelected (payload : ChartRenderPayload) (key : TradeSelectorKey) (item : ℚ → ChartItem)
    (price : Option ℚ) : List DrawStep :=
  if key ∈ payload.overlaySelection.trade then
    price.toList.map fun price => payload.drawVisibleLine (item price) price
  else []

def drawTrade (payload : ChartRenderPayload) (trade : TradeOverlay) : List DrawStep :=
  payload.drawSelected .positions (.trade trade .entry) (some trade.openPrice) ++
  payload.drawSelected .sl (.trade trade .sl) trade.slPrice ++
  payload.drawSelected .tp (.trade trade .tp) trade.tpPrice ++
  payload.drawSelected .gslo (.trade trade .gslo) trade.gsloPrice

def drawOrder (payload : ChartRenderPayload) (order : PendingOrderOverlay) : List DrawStep :=
  [payload.drawVisibleLine (.order order .entry order.price) order.price] ++
  payload.drawSelected .sl (.order order .sl) order.stopLossPrice ++
  payload.drawSelected .tp (.order order .tp) order.takeProfitPrice ++
  payload.drawSelected .gslo (.order order .gslo) order.gsloPrice

/-- `_draw_line_overlays`. -/
def drawLineOverlays (payload : ChartRenderPayload) : List DrawStep :=
  let trade := payload.overlaySelection.trade
  (if .struct ∈ payload.overlaySelection.smc then
    payload.structureAnnotations.flatMap fun annotation =>
      annotation.level.toList.map fun level => payload.drawVisibleLine (.struct annotation level) level
    else []) ++
  (if .liquidity ∈ payload.overlaySelection.smc then
    payload.liquidityAnnotations.map fun annotation =>
      payload.drawVisibleLine (.liquidity annotation) annotation.price else []) ++
  (if .positions ∈ trade ∨ .sl ∈ trade ∨ .tp ∈ trade ∨ .gslo ∈ trade then
    payload.tradeOverlays.flatMap payload.drawTrade else []) ++
  (if .orders ∈ trade then payload.orderOverlays.flatMap payload.drawOrder else [])

def drawOverlays (payload : ChartRenderPayload) : List DrawStep :=
  payload.drawOrderBlocks ++ payload.drawLineOverlays

end ChartRenderPayload

def PriceField.tradeKey : PriceField → TradeSelectorKey
  | entry => .positions
  | sl => .sl
  | tp => .tp
  | gslo => .gslo

/-- The families of a price of an order: the orders, and the family of a protective price. -/
def PriceField.orderKeys : PriceField → List TradeSelectorKey
  | entry => [.orders]
  | sl => [.orders, .sl]
  | tp => [.orders, .tp]
  | gslo => [.orders, .gslo]

/-! ### Item by item -/

section items

variable {payload : ChartRenderPayload}

open ChartRenderPayload

@[simp] theorem mem_omittedPrices {item : PriceField → ℚ → ChartItem}
    {prices : List (PriceField × Option ℚ)} {x : ChartItem} :
    x ∈ payload.omittedPrices item prices ↔ ∃ field price, (field, some price) ∈ prices ∧
      payload.priceIsVisible price = false ∧ item field price = x := by
  simp only [omittedPrices, List.mem_flatMap, List.mem_map, List.mem_filter, Option.mem_toList,
    Bool.not_eq_true', Prod.exists]
  constructor
  · rintro ⟨field, price?, hmem, price, ⟨rfl, hhidden⟩, rfl⟩
    exact ⟨field, price, hmem, hhidden, rfl⟩
  · rintro ⟨field, price, hmem, hhidden, rfl⟩
    exact ⟨field, some price, hmem, price, ⟨rfl, hhidden⟩, rfl⟩

@[simp] theorem skipped_drawVisibleLine {item x : ChartItem} {price : ℚ} :
    .skipped x = payload.drawVisibleLine item price ↔
      payload.priceIsVisible price = false ∧ x = item := by
  unfold drawVisibleLine
  split_ifs with hvisible
  · simp [hvisible]
  · simp [hvisible]

@[simp] theorem mem_drawSelected {key : TradeSelectorKey} {item : ℚ → ChartItem} {price : Option ℚ}
    {x : ChartItem} : .skipped x ∈ payload.drawSelected key item price ↔
      key ∈ payload.overlaySelection.trade ∧ ∃ p, price = some p ∧
        payload.priceIsVisible p = false ∧ x = item p := by
  unfold drawSelected
  split_ifs with hkey
  · cases price with
    | none => simp
    | some p => simp [hkey]
  · simp [hkey]

theorem skipped_drawTrade {trade : TradeOverlay} {item : ChartItem} :
    .skipped item ∈ payload.drawTrade trade ↔ ∃ field price,
      (field, some price) ∈ trade.prices ∧ payload.priceIsVisible price = false ∧
        field.tradeKey ∈ payload.overlaySelection.trade ∧ item = .trade trade field price := by
  simp only [drawTrade, TradeOverlay.prices, List.mem_append, mem_drawSelected]
  constructor
  · rintro (((⟨hkey, p, hp, hhidden, rfl⟩ | ⟨hkey, p, hp, hhidden, rfl⟩) | ⟨hkey, p, hp, hhidden, rfl⟩) |
      ⟨hkey, p, hp, hhidden, rfl⟩)
    · exact ⟨.entry, p, by simpa using hp.symm, hhidden, hkey, rfl⟩
    · exact ⟨.sl, p, by simpa using hp.symm, hhidden, hkey, rfl⟩
    · exact ⟨.tp, p, by simpa using hp.symm, hhidden, hkey, rfl⟩
    · exact ⟨.gslo, p, by simpa using hp.symm, hhidden, hkey, rfl⟩
  · rintro ⟨field, price, hmem, hhidden, hkey, rfl⟩
    cases field with
    | entry => simp_all [PriceField.tradeKey]
    | sl => simp_all [PriceField.tradeKey]
    | tp => simp_all [PriceField.tradeKey]
    | gslo => simp_all [PriceField.tradeKey]

theorem skipped_drawOrder {order : PendingOrderOverlay} {item : ChartItem} :
    .orders ∈ payload.overlaySelection.trade ∧ .skipped item ∈ payload.drawOrder order ↔
      ∃ field price, (field, some price) ∈ order.prices ∧ payload.priceIsVisible price = false ∧
        (∀ key ∈ field.orderKeys, key ∈ payload.overlaySelection.trade) ∧
          item = .order order field price := by
  simp only [drawOrder, PendingOrderOverlay.prices, List.mem_append, List.mem_singleton,
    skipped_drawVisibleLine, mem_drawSelected]
  constructor
  · rintro ⟨horders, ((⟨hhidden, rfl⟩ | ⟨hkey, p, hp, hhidden, rfl⟩) |
      ⟨hkey, p, hp, hhidden, rfl⟩) | ⟨hkey, p, hp, hhidden, rfl⟩⟩
    · exact ⟨.entry, order.price, by simp, hhidden, by simpa [PriceField.orderKeys], rfl⟩
    · exact ⟨.sl, p, by simp [hp], hhidden, by simpa [PriceField.orderKeys] using ⟨horders, hkey⟩, rfl⟩
    · exact ⟨.tp, p, by simp [hp], hhidden, by simpa [PriceField.orderKeys] using ⟨horders, hkey⟩, rfl⟩
    · exact ⟨.gslo, p, by simp [hp], hhidden, by simpa [PriceField.orderKeys] using ⟨horders, hkey⟩,
        rfl⟩
  · rintro ⟨field, price, hmem, hhidden, hkeys, rfl⟩
    cases field with
    | entry => simp_all [PriceField.orderKeys]
    | sl => simp_all [PriceField.orderKeys]
    | tp => simp_all [PriceField.orderKeys]
    | gslo => simp_all [PriceField.orderKeys]

/-- The SMC items outside the visible range, of the selected families. -/
def ChartRenderPayload.HidesSmc (payload : ChartRenderPayload) (item : ChartItem) : Prop :=
  (.orderblocks ∈ payload.overlaySelection.smc ∧ ∃ block ∈ payload.orderBlockAnnotations,
    payload.rangeIntersects block.lowerPrice block.upperPrice = false ∧ item = .orderblock block) ∨
  (.struct ∈ payload.overlaySelection.smc ∧ ∃ annotation ∈ payload.structureAnnotations, ∃ level,
    annotation.level = some level ∧ payload.priceIsVisible level = false ∧
      item = .struct annotation level) ∨
  (.liquidity ∈ payload.overlaySelection.smc ∧ ∃ annotation ∈ payload.liquidityAnnotations,
    payload.priceIsVisible annotation.price = false ∧ item = .liquidity annotation)

/-- The prices of a trade outside the visible range. -/
def ChartRenderPayload.HidesTrade (payload : ChartRenderPayload) (trade : TradeOverlay)
    (field : PriceField) (price : ℚ) : Prop :=
  trade ∈ payload.tradeOverlays ∧ (field, some price) ∈ trade.prices ∧
    payload.priceIsVisible price = false

/-- The prices of an order outside the visible range. -/
def ChartRenderPayload.HidesOrder (payload : ChartRenderPayload) (order : PendingOrderOverlay)
    (field : PriceField) (price : ℚ) : Prop :=
  order ∈ payload.orderOverlays ∧ (field, some price) ∈ order.prices ∧
    payload.priceIsVisible price = false

theorem mem_omittedItems {item : ChartItem} : item ∈ payload.omittedItems ↔
    payload.HidesSmc item ∨
    (∃ trade field price, payload.HidesTrade trade field price ∧ item = .trade trade field price) ∨
    ∃ order field price, payload.HidesOrder order field price ∧ item = .order order field price := by
  simp only [omittedItems, HidesSmc, HidesTrade, HidesOrder, List.mem_append, List.mem_ite_nil_right,
    List.mem_flatMap, List.mem_map, List.mem_filter, Bool.not_eq_true', Option.mem_toList,
    mem_omittedPrices]
  constructor
  · rintro ((((⟨hkey, block, ⟨hmem, hhidden⟩, rfl⟩ | ⟨hkey, a, hmem, level, ⟨hlevel, hhidden⟩, rfl⟩) |
      ⟨hkey, a, ⟨hmem, hhidden⟩, rfl⟩) | ⟨trade, hmem, field, price, hprice, hhidden, rfl⟩) |
      ⟨order, hmem, field, price, hprice, hhidden, rfl⟩)
    · exact Or.inl (Or.inl ⟨hkey, block, hmem, hhidden, rfl⟩)
    · exact Or.inl (Or.inr (Or.inl ⟨hkey, a, hmem, level, hlevel, hhidden, rfl⟩))
    · exact Or.inl (Or.inr (Or.inr ⟨hkey, a, hmem, hhidden, rfl⟩))
    · exact Or.inr (Or.inl ⟨trade, field, price, ⟨hmem, hprice, hhidden⟩, rfl⟩)
    · exact Or.inr (Or.inr ⟨order, field, price, ⟨hmem, hprice, hhidden⟩, rfl⟩)
  · rintro ((⟨hkey, block, hmem, hhidden, rfl⟩ | ⟨hkey, a, hmem, level, hlevel, hhidden, rfl⟩ |
      ⟨hkey, a, hmem, hhidden, rfl⟩) | ⟨trade, field, price, ⟨hmem, hprice, hhidden⟩, rfl⟩ |
      ⟨order, field, price, ⟨hmem, hprice, hhidden⟩, rfl⟩)
    · exact Or.inl (Or.inl (Or.inl (Or.inl ⟨hkey, block, ⟨hmem, hhidden⟩, rfl⟩)))
    · exact Or.inl (Or.inl (Or.inl (Or.inr ⟨hkey, a, hmem, level, ⟨hlevel, hhidden⟩, rfl⟩)))
    · exact Or.inl (Or.inl (Or.inr ⟨hkey, a, ⟨hmem, hhidden⟩, rfl⟩))
    · exact Or.inl (Or.inr ⟨trade, hmem, field, price, hprice, hhidden, rfl⟩)
    · exact Or.inr ⟨order, hmem, field, price, hprice, hhidden, rfl⟩

theorem skipped_mem_drawOrderBlocks {item : ChartItem} :
    .skipped item ∈ payload.drawOrderBlocks ↔ .orderblocks ∈ payload.overlaySelection.smc ∧
      ∃ block ∈ payload.orderBlockAnnotations,
        payload.rangeIntersects block.lowerPrice block.upperPrice = false ∧
          item = .orderblock block := by
  unfold drawOrderBlocks
  split_ifs with hkey
  · simp only [List.mem_map, hkey, true_and]
    refine exists_congr fun block => and_congr_right fun _ => ?_
    cases payload.rangeIntersects block.lowerPrice block.upperPrice with
    | false => simp [eq_comm]
    | true => simp
  · simp [hkey]

/-- The loop over the trades is entered when the family of one of its prices is selected. -/
theorem PriceField.tradeKey_selected {field : PriceField} {selected : List TradeSelectorKey}
    (h : field.tradeKey ∈ selected) :
    .positions ∈ selected ∨ .sl ∈ selected ∨ .tp ∈ selected ∨ .gslo ∈ selected := by
  cases field with
  | entry => exact Or.inl h
  | sl => exact Or.inr (Or.inl h)
  | tp => exact Or.inr (Or.inr (Or.inl h))
  | gslo => exact Or.inr (Or.inr (Or.inr h))

theorem skipped_mem_drawOverlays {item : ChartItem} : .skipped item ∈ payload.drawOverlays ↔
    payload.HidesSmc item ∨
    (∃ trade field price, payload.HidesTrade trade field price ∧
      field.tradeKey ∈ payload.overlaySelection.trade ∧ item = .trade trade field price) ∨
    ∃ order field price, payload.HidesOrder order field price ∧
      (∀ key ∈ field.orderKeys, key ∈ payload.overlaySelection.trade) ∧
        item = .order order field price := by
  simp only [drawOverlays, drawLineOverlays, HidesSmc, HidesTrade, HidesOrder, List.mem_append,
    List.mem_ite_nil_right, List.mem_flatMap, List.mem_map, Option.mem_toList,
    skipped_mem_drawOrderBlocks, skipped_drawTrade]
  constructor
  · rintro (hblock | (((⟨hkey, a, hmem, level, hlevel, hline⟩ | ⟨hkey, a, hmem, hline⟩) |
      ⟨-, trade, hmem, field, price, hprice, hhidden, hkey, rfl⟩) | ⟨hkey, order, hmem, hskipped⟩))
    · exact Or.inl (Or.inl hblock)
    · obtain ⟨hhidden, rfl⟩ := skipped_drawVisibleLine.mp hline.symm
      exact Or.inl (Or.inr (Or.inl ⟨hkey, a, hmem, level, hlevel, hhidden, rfl⟩))
    · obtain ⟨hhidden, rfl⟩ := skipped_drawVisibleLine.mp hline.symm
      exact Or.inl (Or.inr (Or.inr ⟨hkey, a, hmem, hhidden, rfl⟩))
    · exact Or.inr (Or.inl ⟨trade, field, price, ⟨hmem, hprice, hhidden⟩, hkey, rfl⟩)
    · obtain ⟨field, price, hprice, hhidden, hkeys, rfl⟩ := skipped_drawOrder.mp ⟨hkey, hskipped⟩
      exact Or.inr (Or.inr ⟨order, field, price, ⟨hmem, hprice, hhidden⟩, hkeys, rfl⟩)
  · rintro ((hblock | ⟨hkey, a, hmem, level, hlevel, hhidden, rfl⟩ | ⟨hkey, a, hmem, hhidden, rfl⟩) |
      ⟨trade, field, price, ⟨hmem, hprice, hhidden⟩, hkey, rfl⟩ |
      ⟨order, field, price, ⟨hmem, hprice, hhidden⟩, hkeys, rfl⟩)
    · exact Or.inl hblock
    · have hline : .skipped (.struct a level) = payload.drawVisibleLine (.struct a level) _ :=
        skipped_drawVisibleLine.mpr ⟨hhidden, rfl⟩
      exact Or.inr (Or.inl (Or.inl (Or.inl ⟨hkey, a, hmem, level, hlevel, hline.symm⟩)))
    · have hline : .skipped (.liquidity a) = payload.drawVisibleLine (.liquidity a) _ :=
        skipped_drawVisibleLine.mpr ⟨hhidden, rfl⟩
      exact Or.inr (Or.inl (Or.inl (Or.inr ⟨hkey, a, hmem, hline.symm⟩)))
    · exact Or.inr (Or.inl (Or.inr ⟨PriceField.tradeKey_selected hkey, trade, hmem, field, price,
        hprice, hhidden, hkey, rfl⟩))
    · obtain ⟨horders, hskipped⟩ := skipped_drawOrder.mpr ⟨field, price, hprice, hhidden, hkeys, rfl⟩
      exact Or.inr (Or.inr ⟨horders, order, hmem, hskipped⟩)

end items

/-- **Omitted and skipped.**  The omitted items are those that are selected and not drawn, exactly when
every price of a trade outside the visible range has its family selected, and every price of an order
outside it the orders and its own family. -/
theorem omitted_iff_skipped (payload : ChartRenderPayload) :
    (∀ item, item ∈ payload.omittedItems ↔ .skipped item ∈ payload.drawOverlays) ↔
      (∀ trade field price, payload.HidesTrade trade field price →
        field.tradeKey ∈ payload.overlaySelection.trade) ∧
      ∀ order field price, payload.HidesOrder order field price →
        ∀ key ∈ field.orderKeys, key ∈ payload.overlaySelection.trade := by
  constructor
  · intro hagree
    refine ⟨fun trade field price hhides => ?_, fun order field price hhides => ?_⟩
    · have homitted := mem_omittedItems.mpr (Or.inr (Or.inl ⟨trade, field, price, hhides, rfl⟩))
      have hskipped := skipped_mem_drawOverlays.mp ((hagree _).mp homitted)
      rcases hskipped with (⟨-, _, -, -, hsame⟩ | ⟨-, _, -, _, -, -, hsame⟩ | ⟨-, _, -, -, hsame⟩) |
        ⟨_, _, _, -, hkey, hsame⟩ | ⟨_, _, _, -, -, hsame⟩
      all_goals cases hsame
      exact hkey
    · have homitted := mem_omittedItems.mpr (Or.inr (Or.inr ⟨order, field, price, hhides, rfl⟩))
      have hskipped := skipped_mem_drawOverlays.mp ((hagree _).mp homitted)
      rcases hskipped with (⟨-, _, -, -, hsame⟩ | ⟨-, _, -, _, -, -, hsame⟩ | ⟨-, _, -, -, hsame⟩) |
        ⟨_, _, _, -, -, hsame⟩ | ⟨_, _, _, -, hkeys, hsame⟩
      all_goals cases hsame
      exact hkeys
  · rintro ⟨htrades, horders⟩ item
    rw [mem_omittedItems, skipped_mem_drawOverlays]
    refine or_congr_right (or_congr ?_ ?_)
    · exact exists_congr fun trade => exists_congr fun field => exists_congr fun price =>
        and_congr_right fun hhides => (and_iff_right (htrades trade field price hhides)).symm
    · exact exists_congr fun order => exists_congr fun field => exists_congr fun price =>
        and_congr_right fun hhides => (and_iff_right (horders order field price hhides)).symm

/-- A trade opened below the visible range. -/
def hiddenTrade : TradeOverlay where
  instrument := "EUR_USD"
  tradeId := "1"
  openPrice := 1
  slPrice := none
  tpPrice := none
  gsloPrice := none

def ordersOnlyChart : ChartRenderPayload where
  overlaySelection := ⟨[], [.orders]⟩
  visiblePriceLow := 11 / 10
  visiblePriceHigh := 12 / 10
  orderBlockAnnotations := []
  structureAnnotations := []
  liquidityAnnotations := []
  tradeOverlays := [hiddenTrade]
  orderOverlays := []

/-- The positions are not selected, and the trade is reported as omitted. -/
theorem omitted_notSelected :
    ¬ ∀ payload item, item ∈ ChartRenderPayload.omittedItems payload ↔
      .skipped item ∈ payload.drawOverlays := by
  intro h
  have hitem := h ordersOnlyChart (.trade hiddenTrade .entry 1)
  revert hitem
  decide +kernel

end OandaV3
