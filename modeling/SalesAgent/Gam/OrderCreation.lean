import SalesAgent.Gam.LineItems

/-!
# Orders of the GAM adapter

`create_media_buy` checks the pricing, the configuration, the inventory and the targeting of a
buy, asks the ad server for an order, and then for a line item of each package.  A buy that needs
manual approval is parked instead.  What the ad server makes of the calls is given; a call that
takes too long runs to its end and raises.

The approval of the order and the step that asks for its activation are left out.  Whatever comes
of them, the call returns the same.

**Results.**
* `placeLineItems_created`: a loop whose calls all create makes one line item of each package.
* `all_or_nothing_iff`: when a call leaves nothing behind that it raises over, and has ordered
  every package if it returns.
-/

namespace SalesAgent
namespace Gam

open Idempotency (Json)
open MediaBuys (AdapterCreateResult DeliveryType PricedPackage PricingModel)

section Server

/-- A fault of an ad-server call. -/
inductive Fault
  /-- an error that a lower layer has classified -/
  | typed (err : GamError)
  /-- any other exception, its name and its text in lower case -/
  | raised (name message : String)

/-- What becomes of a call that creates something. -/
inductive Answer
  | created (id : String)
  /-- created, but the answer is a fault -/
  | lost (id : String) (fault : Fault)
  | empty
  | fault (fault : Fault)

/-- What becomes of the calls of a `create_media_buy`. -/
structure Answers where
  /-- whether the step that parks the buy is stored, and the id it is parked under -/
  stepStored : Bool
  parkedId : String
  order : Answer
  orderInTime : Bool
  /-- `_get_or_create_custom_targeting_value` -/
  value : Json → Json → Option Int
  /-- the line item of each package, by its place -/
  lineItem : Nat → Answer
  lineItemsInTime : Bool
  /-- the look at the line items at the end; its faults count as no line items -/
  itemsInTime : Bool

/-- A line item in the ad server. -/
structure PlacedItem where
  lineItemId : String
  packageId : String
  item : OrderedLineItem

/-- What a call has created in the ad server. -/
structure AdServer where
  orders : List String := []
  lineItems : List PlacedItem := []

/-- The families of faults, in the order in which they are tried. -/
def faultFamilies : List (List String × GamError) :=
  [(["AuthError", "RefreshError", "authentication", "invalid_grant", "invalid_client",
      "credential"], .configuration none),
    (["PermissionError", "permission"], .authorization),
    (["QuotaError", "quota"], .rateLimit),
    (["NotFoundError", "not found"], .resourceNotFound),
    (["DuplicateError", "already exists"], .conflict),
    (["NetworkError", "network", "TimeoutError", "timeout"], .serviceUnavailable),
    (["ValidationError", "invalid"], .validation none)]

/-- `map_gam_exception` -/
def mapGamException
    (name message : String) : GamError :=
  match faultFamilies.find? (fun family =>
    family.1.any fun needle => isIn needle name || isIn needle message) with
  | some family => family.2
  | none => .internal

/-- What a fault of `createOrders` is raised as. -/
def Fault.ofOrder : Fault → GamError
  | .typed err => err
  | .raised name message => mapGamException name message

/-- What a fault of `createLineItems` is raised as. -/
def Fault.ofLineItem : Fault → GamError
  | .typed err => err
  | .raised _ _ => .untyped

/-- Whether the ad server has made what it was asked for. -/
def Answer.made : Answer → Bool
  | .created _ => true
  | .lost _ _ => true
  | .empty => false
  | .fault _ => false

end Server

section Configuration

/-- The type of a mapped inventory. -/
inductive InventoryType
  | adUnit
  | placement
  | other (name : String)
  deriving DecidableEq, Repr

/-- A product row, with its inventory mappings. -/
structure StoredProduct where
  productId : String
  deliveryType : DeliveryType
  config : ProductConfig := {}
  mappings : List (InventoryType × String) := []

/-- The adapter of a tenant and what it reads. -/
structure GamAdapter extends LineItemEnv where
  advertiserId : Option String
  traffickerId : Option String
  /-- the overlay that a stored one is validated to -/
  readOverlay : MediaBuys.Targeting → Overlay
  product : String → Option StoredProduct
  /-- whether the synced inventory has an item -/
  inInventory : InventoryType → String → Bool
  manualApprovalRequired : Bool
  manualApprovalOperations : List String

/-- A call of `create_media_buy`; packages are told apart by their ids. -/
structure OrderRequest where
  alreadyApproved : Bool
  startTime : DateTime
  endTime : DateTime
  packages : List PricedPackage
  distinct : (packages.map (·.packageId)).Nodup

/-- The days of the flight. -/
def OrderRequest.flightDays
    (request : OrderRequest) : Int :=
  Timedelta.days (request.endTime - request.startTime)

/-- What a call returns. -/
structure CreatedOrder where
  result : AdapterCreateResult
  platformLineItemIds : List (String × String)

namespace GamAdapter

variable (env : GamAdapter)

/-- The mapped inventory of a type that is there. -/
def mappedIds
    (inventoryType : InventoryType)
    (mappings : List (InventoryType × String)) : List Json :=
  (mappings.filter fun mapping =>
    mapping.1 = inventoryType && env.inInventory inventoryType mapping.2).map
      fun mapping => .str mapping.2

/-- The configuration of a product; mapped inventory replaces what is configured. -/
def mergeInventory
    (product : StoredProduct) : ProductConfig :=
  let adUnitIds := env.mappedIds .adUnit product.mappings
  let placementIds := env.mappedIds .placement product.mappings
  { product.config with
    targetedAdUnitIds :=
      if adUnitIds.isEmpty then product.config.targetedAdUnitIds else adUnitIds
    targetedPlacementIds :=
      if placementIds.isEmpty then product.config.targetedPlacementIds else placementIds }

/-- The entry of `products_map` for a package. -/
def orderedProduct
    (pkg : PricedPackage) : Option OrderedProduct :=
  (env.product pkg.productId).map fun product =>
    { productId := product.productId
      deliveryType := product.deliveryType
      config := env.mergeInventory product }

/-- The overlay of a package. -/
def overlayOf
    (pkg : PricedPackage) : Option Overlay :=
  pkg.targetingOverlay.map env.readOverlay

/-- Every package that is priced has a pricing model of the ad server. -/
def checkPricing
    (packages : List PricedPackage) : Except GamError Unit :=
  if packages.any (fun pkg => pkg.pricing.any fun info =>
      (adcpToGamCostType info.pricingModel).isNone) then
    .error (.capabilityNotSupported none)
  else .ok ()

/-- The ids that an order is created with are configured. -/
def checkConfigured : Except GamError Unit :=
  let missing :=
    (if (present env.advertiserId).isNone then ["advertiser_id (company_id)"] else []) ++
    (if (present env.traffickerId).isNone then ["trafficker_id"] else [])
  if missing.isEmpty then .ok ()
  else .error (.configuration (some (String.intercalate ", " missing)))

/-- The product of a package is there and has inventory. -/
def checkInventory
    (pkg : PricedPackage) : Except GamError Unit :=
  match env.orderedProduct pkg with
  | none => .error .productUnavailable
  | some product =>
      if product.config.targetedAdUnitIds.isEmpty
          && product.config.targetedPlacementIds.isEmpty then
        .error .productUnavailable
      else .ok ()

/-- `DEVICE_TYPE_MAP` -/
def deviceTypeMap : List (String × Nat) :=
  [("mobile", 30000), ("desktop", 30001), ("tablet", 30002), ("ctv", 30003), ("dooh", 30004)]

/-- `SUPPORTED_MEDIA_TYPES` -/
def supportedMediaTypes : List String :=
  ["video", "display", "native"]

/-- `validate_targeting` -/
def validateTargeting
    (overlay : Overlay) : List String :=
  (overlay.deviceFormFactors.filter fun device => (deviceTypeMap.lookup device).isNone).map
      (fun device => "Device type '" ++ device ++ "' not supported")
    ++ (overlay.mediaTypeAnyOf.filter fun media => media ∉ supportedMediaTypes).map
      (fun media => "Media type '" ++ media ++ "' not supported")
    ++ (if "audio" ∈ overlay.mediaTypeAnyOf then
        ["Audio media type not supported by Google Ad Manager"] else [])
    ++ (if ! overlay.geoPostalAreas.isEmpty || ! overlay.geoPostalAreasExclude.isEmpty then
        ["Postal code targeting requires GAM geo service integration (not implemented)"]
      else [])

/-- No overlay has a feature that is known not to be supported. -/
def checkTargeting
    (packages : List PricedPackage) : Except GamError Unit :=
  if (packages.filterMap env.overlayOf).all (fun overlay => (validateTargeting overlay).isEmpty)
  then .ok ()
  else .error (.capabilityNotSupported none)

/-- What is checked before anything is created. -/
def beforeOrder
    (packages : List PricedPackage) : Except GamError Unit := do
  checkPricing packages
  env.checkConfigured
  packages.forM env.checkInventory
  env.checkTargeting packages

/-- Whether the buy waits for a human. -/
def parks
    (request : OrderRequest) : Bool :=
  env.manualApprovalRequired && "create_media_buy" ∈ env.manualApprovalOperations
    && ! request.alreadyApproved

end GamAdapter

end Configuration

section Creation

/-- `_build_create_success` -/
def createSuccess
    (mediaBuyId : String)
    (packages : List PricedPackage)
    (platformLineItemIds : List (String × String)) : CreatedOrder where
  result :=
    { mediaBuyId := mediaBuyId
      packages := packages.map fun pkg => ⟨pkg.packageId, none, false⟩ }
  platformLineItemIds := platformLineItemIds

/-- `create_order`, as the ad server answers. -/
def orderCall
    (answer : Answer)
    (server : AdServer) : Except GamError String × AdServer :=
  match answer with
  | .created id => (.ok id, { server with orders := server.orders ++ [id] })
  | .lost id fault =>
      (.error fault.ofOrder, { server with orders := server.orders ++ [id] })
  | .empty => (.error .adapter, server)
  | .fault fault => (.error fault.ofOrder, server)

/-- `timeout`: the call runs to its end; a late answer is dropped. -/
def timeout
    {α : Type}
    (inTime : Bool)
    (call : Except GamError α × AdServer) : Except GamError α × AdServer :=
  if inTime then call else (.error .serviceUnavailable, call.2)

/-- The manager, with the values the ad server answers. -/
def TargetingManager.answered
    (manager : TargetingManager)
    (value : Json → Json → Option Int) : TargetingManager :=
  { manager with values := { manager.values with getOrCreateValue := value } }

/-- The targeting of a package without an overlay. -/
def noTargeting : GamTargeting where
  geoTargeting := ⟨none, none⟩
  customTargeting := none
  mediaTypeEnvironment := none

/-- The targeting that is built for a package. -/
def packageTargeting
    (env : GamAdapter)
    (value : Json → Json → Option Int)
    (pkg : PricedPackage) : Except GamError GamTargeting :=
  match env.overlayOf pkg with
  | none => .ok noTargeting
  | some overlay => ((env.manager.answered value).buildTargeting overlay).mapError
      TargetingRefusal.toError

/-- The line item of a package and its targeting. -/
def packageLineItem
    (env : GamAdapter)
    (flightDays : Int)
    (pkg : PricedPackage)
    (targeting : GamTargeting) : Except GamError OrderedLineItem :=
  match env.orderedProduct pkg with
  | none => .error (.configuration none)
  | some product => buildLineItem env.toLineItemEnv product targeting
      ((env.overlayOf pkg).bind (·.frequencyCap)) flightDays pkg

/-- A line item is added to the ad server. -/
def AdServer.place
    (server : AdServer)
    (lineItemId packageId : String)
    (item : OrderedLineItem) : AdServer :=
  { server with lineItems := server.lineItems ++ [⟨lineItemId, packageId, item⟩] }

/-- The loop of `create_line_items`, from the place of its next package; an empty answer adds no
id. -/
def placeLineItems
    (env : GamAdapter)
    (flightDays : Int)
    (answer : Nat → Answer) :
    Nat → List (PricedPackage × GamTargeting) → AdServer →
      Except GamError (List String) × AdServer
  | _, [], server => (.ok [], server)
  | k, (pkg, targeting) :: rest, server =>
      match packageLineItem env flightDays pkg targeting with
      | .error err => (.error err, server)
      | .ok item =>
          match answer k with
          | .fault fault => (.error fault.ofLineItem, server)
          | .lost id fault => (.error fault.ofLineItem, server.place id pkg.packageId item)
          | .empty => placeLineItems env flightDays answer (k + 1) rest server
          | .created id =>
              let placed := placeLineItems env flightDays answer (k + 1) rest
                (server.place id pkg.packageId item)
              (placed.1.map fun ids => id :: ids, placed.2)

/-- What an error of the line items is raised as. -/
def GamError.afterOrder : GamError → GamError
  | .untyped => .lineItem
  | err => err

/-- The targeting of all packages is built before the first line item. -/
def targetPackages
    (env : GamAdapter)
    (value : Json → Json → Option Int)
    (packages : List PricedPackage) : Except GamError (List (PricedPackage × GamTargeting)) :=
  packages.mapM fun pkg => (packageTargeting env value pkg).map fun targeting => (pkg, targeting)

/-- What follows the creation of the order. -/
def fillOrder
    (env : GamAdapter)
    (request : OrderRequest)
    (answers : Answers)
    (orderId : String)
    (server : AdServer) : Except GamError CreatedOrder × AdServer :=
  match targetPackages env answers.value request.packages with
  | .error err => (.error err, server)
  | .ok targeted =>
      match timeout answers.lineItemsInTime
          (placeLineItems env request.flightDays answers.lineItem 0 targeted server) with
      | (.error err, filled) => (.error err.afterOrder, filled)
      | (.ok lineItemIds, filled) =>
          timeout answers.itemsInTime
            (.ok (createSuccess orderId request.packages
              ((request.packages.map (·.packageId)).zip lineItemIds)), filled)

/-- `create_media_buy` -/
def createMediaBuy
    (env : GamAdapter)
    (request : OrderRequest)
    (answers : Answers) : Except GamError CreatedOrder × AdServer :=
  match env.beforeOrder request.packages with
  | .error err => (.error err, {})
  | .ok () =>
      if env.parks request then
        if answers.stepStored then
          (.ok (createSuccess answers.parkedId request.packages []), {})
        else (.error .workflow, {})
      else
        match timeout answers.orderInTime (orderCall answers.order {}) with
        | (.error err, server) => (.error err, server)
        | (.ok orderId, server) => fillOrder env request answers orderId server

end Creation

section Contract

/-- The creation of an order is all or nothing. -/
structure AllOrNothing
    (env : GamAdapter)
    (request : OrderRequest)
    (answers : Answers) : Prop where
  /-- a call that raises leaves nothing in the ad server -/
  raised : ∀ err, (createMediaBuy env request answers).1 = .error err →
    (createMediaBuy env request answers).2.orders = []
      ∧ (createMediaBuy env request answers).2.lineItems = []
  /-- a call that raises whatever the ad server answers has not created the order -/
  refused : (∀ answers', ∃ err, (createMediaBuy env request answers').1 = .error err) →
    (createMediaBuy env request answers).2.orders = []
  /-- a call that returns has ordered each package once, under the id it returns for it -/
  returned : ∀ created, (createMediaBuy env request answers).1 = .ok created →
    ∀ pkg ∈ request.packages, ∃ item,
      (createMediaBuy env request answers).2.lineItems.filter
          (fun i => i.packageId = pkg.packageId) = [item]
        ∧ created.platformLineItemIds.lookup pkg.packageId = some item.lineItemId

/-- The ad server creates everything in time, of packages that can be ordered. -/
structure CarriedOut
    (env : GamAdapter)
    (request : OrderRequest)
    (answers : Answers) : Prop where
  order : ∃ id, answers.order = .created id
  orderInTime : answers.orderInTime = true
  targeting : ∀ pkg ∈ request.packages, ∃ targeting,
    packageTargeting env answers.value pkg = .ok targeting
  ready : ∀ pkg ∈ request.packages, ∃ product, env.orderedProduct pkg = some product
    ∧ LineReady env.toLineItemEnv product ((env.overlayOf pkg).bind (·.frequencyCap)) pkg
  lineItems : ∀ k < request.packages.length, ∃ id, answers.lineItem k = .created id
  lineItemsInTime : answers.lineItemsInTime = true
  itemsInTime : answers.itemsInTime = true

/-- The packages and the configuration pass the checks in front of the order. -/
structure Admissible
    (env : GamAdapter)
    (packages : List PricedPackage) : Prop where
  pricing : ∀ pkg ∈ packages, ∀ info, pkg.pricing = some info →
    info.pricingModel ∈ [PricingModel.cpm, .vcpm, .cpc, .flatRate]
  advertiser : present env.advertiserId ≠ none
  trafficker : present env.traffickerId ≠ none
  inventory : ∀ pkg ∈ packages, ∃ product, env.orderedProduct pkg = some product
    ∧ (product.config.targetedAdUnitIds ≠ [] ∨ product.config.targetedPlacementIds ≠ [])
  targeting : ∀ pkg ∈ packages, ∀ overlay, env.overlayOf pkg = some overlay →
    GamAdapter.validateTargeting overlay = []

/-- The call is refused beforehand, parked in vain, not given an order, or carried out. -/
def Settles
    (env : GamAdapter)
    (request : OrderRequest)
    (answers : Answers) : Prop :=
  ¬ Admissible env request.packages
    ∨ (env.parks request = true ∧ (answers.stepStored = false ∨ request.packages = []))
    ∨ (env.parks request = false ∧ answers.order.made = false)
    ∨ (env.parks request = false ∧ CarriedOut env request answers)

end Contract

section Checks

variable {env : GamAdapter} {packages : List PricedPackage}

theorem checkPricing_eq_ok_iff :
    GamAdapter.checkPricing packages = .ok () ↔
      ∀ pkg ∈ packages, ∀ info, pkg.pricing = some info →
        info.pricingModel ∈ [PricingModel.cpm, .vcpm, .cpc, .flatRate] := by
  rw [GamAdapter.checkPricing]
  constructor
  · intro h pkg hpkg info hinfo
    refine adcpToGamCostType_isSome_iff.mp ?_
    cases hcost : adcpToGamCostType info.pricingModel with
    | some costType => exact ⟨costType, rfl⟩
    | none =>
        rw [if_pos (List.any_eq_true.mpr ⟨pkg, hpkg, by rw [hinfo, Option.any_some, hcost]; rfl⟩)]
          at h
        cases h
  · intro h
    refine if_neg ?_
    intro hany
    obtain ⟨pkg, hpkg, hnone⟩ := List.any_eq_true.mp hany
    cases hinfo : pkg.pricing with
    | none =>
        rw [hinfo] at hnone
        cases hnone
    | some info =>
        rw [hinfo, Option.any_some] at hnone
        obtain ⟨costType, hcost⟩ := adcpToGamCostType_isSome_iff.mpr (h pkg hpkg info hinfo)
        rw [hcost] at hnone
        cases hnone

theorem checkConfigured_eq_ok_iff :
    env.checkConfigured = .ok () ↔
      present env.advertiserId ≠ none ∧ present env.traffickerId ≠ none := by
  rw [GamAdapter.checkConfigured]
  cases present env.advertiserId with
  | none => exact iff_of_false (fun h => by cases h) (fun h => h.1 rfl)
  | some advertiser =>
      cases present env.traffickerId with
      | none => exact iff_of_false (fun h => by cases h) (fun h => h.2 rfl)
      | some trafficker =>
          exact iff_of_true rfl ⟨Option.some_ne_none advertiser, Option.some_ne_none trafficker⟩

theorem checkInventory_eq_ok_iff
    {pkg : PricedPackage} :
    env.checkInventory pkg = .ok () ↔ ∃ product, env.orderedProduct pkg = some product
      ∧ (product.config.targetedAdUnitIds ≠ [] ∨ product.config.targetedPlacementIds ≠ []) := by
  rw [GamAdapter.checkInventory]
  cases env.orderedProduct pkg with
  | none =>
      refine iff_of_false (fun h => by cases h) ?_
      rintro ⟨product, h, -⟩
      cases h
  | some product =>
      dsimp only
      simp only [Option.some.injEq, exists_eq_left']
      cases product.config.targetedAdUnitIds with
      | cons id ids => exact iff_of_true rfl (.inl (List.cons_ne_nil id ids))
      | nil =>
          cases product.config.targetedPlacementIds with
          | cons id ids => exact iff_of_true rfl (.inr (List.cons_ne_nil id ids))
          | nil => exact iff_of_false (fun h => by cases h) (fun h => h.elim (· rfl) (· rfl))

theorem forM_eq_ok_iff
    {α ε : Type}
    {f : α → Except ε Unit} {xs : List α} :
    xs.forM f = .ok () ↔ ∀ x ∈ xs, f x = .ok () := by
  induction xs with
  | nil => exact iff_of_true rfl (fun x hx => absurd hx List.not_mem_nil)
  | cons x xs ih =>
      change (f x >>= fun _ => xs.forM f) = .ok () ↔ _
      rw [bind_eq_ok, List.forall_mem_cons]
      constructor
      · rintro ⟨⟨⟩, hx, hxs⟩
        exact ⟨hx, ih.mp hxs⟩
      · rintro ⟨hx, hxs⟩
        exact ⟨(), hx, ih.mpr hxs⟩

theorem checkTargeting_eq_ok_iff :
    env.checkTargeting packages = .ok () ↔
      ∀ pkg ∈ packages, ∀ overlay, env.overlayOf pkg = some overlay →
        GamAdapter.validateTargeting overlay = [] := by
  rw [GamAdapter.checkTargeting]
  constructor
  · intro h pkg hpkg overlay hoverlay
    by_contra hne
    rw [if_neg] at h
    · cases h
    · intro hall
      have hempty := List.all_eq_true.mp hall overlay
        (List.mem_filterMap.mpr ⟨pkg, hpkg, hoverlay⟩)
      exact hne (List.isEmpty_iff.mp hempty)
  · intro h
    refine if_pos (List.all_eq_true.mpr ?_)
    intro overlay hoverlay
    obtain ⟨pkg, hpkg, hoverlay⟩ := List.mem_filterMap.mp hoverlay
    exact List.isEmpty_iff.mpr (h pkg hpkg overlay hoverlay)

theorem beforeOrder_eq_ok_iff :
    env.beforeOrder packages = .ok () ↔ Admissible env packages := by
  rw [GamAdapter.beforeOrder]
  constructor
  · intro h
    obtain ⟨⟨⟩, hpricing, h⟩ := bind_eq_ok.mp h
    obtain ⟨⟨⟩, hconfigured, h⟩ := bind_eq_ok.mp h
    obtain ⟨⟨⟩, hinventory, htargeting⟩ := bind_eq_ok.mp h
    obtain ⟨hadvertiser, htrafficker⟩ := checkConfigured_eq_ok_iff.mp hconfigured
    exact
      { pricing := checkPricing_eq_ok_iff.mp hpricing
        advertiser := hadvertiser
        trafficker := htrafficker
        inventory := fun pkg hpkg =>
          checkInventory_eq_ok_iff.mp (forM_eq_ok_iff.mp hinventory pkg hpkg)
        targeting := checkTargeting_eq_ok_iff.mp htargeting }
  · intro h
    exact bind_eq_ok.mpr ⟨(), checkPricing_eq_ok_iff.mpr h.pricing, bind_eq_ok.mpr
      ⟨(), checkConfigured_eq_ok_iff.mpr ⟨h.advertiser, h.trafficker⟩, bind_eq_ok.mpr
        ⟨(), forM_eq_ok_iff.mpr (fun pkg hpkg => checkInventory_eq_ok_iff.mpr
          (h.inventory pkg hpkg)), checkTargeting_eq_ok_iff.mpr h.targeting⟩⟩⟩

end Checks

section Loop

variable {env : GamAdapter} {flightDays : Int} {answer : Nat → Answer} {k : Nat}
  {targeted : List (PricedPackage × GamTargeting)} {placed : List PlacedItem}

/-- A loop that returns: each package has a line item made, which the ad server creates or
answers with nothing. -/
inductive Placed
    (env : GamAdapter)
    (flightDays : Int)
    (answer : Nat → Answer) :
    Nat → List (PricedPackage × GamTargeting) → List PlacedItem → Prop
  | done (k : Nat) : Placed env flightDays answer k [] []
  | skipped {k : Nat} {pkg : PricedPackage} {targeting : GamTargeting}
      {rest : List (PricedPackage × GamTargeting)} {item : OrderedLineItem}
      {placed : List PlacedItem}
      (hitem : packageLineItem env flightDays pkg targeting = .ok item)
      (hanswer : answer k = .empty)
      (hrest : Placed env flightDays answer (k + 1) rest placed) :
      Placed env flightDays answer k ((pkg, targeting) :: rest) placed
  | created {k : Nat} {pkg : PricedPackage} {targeting : GamTargeting}
      {rest : List (PricedPackage × GamTargeting)} {item : OrderedLineItem}
      {placed : List PlacedItem} {id : String}
      (hitem : packageLineItem env flightDays pkg targeting = .ok item)
      (hanswer : answer k = .created id)
      (hrest : Placed env flightDays answer (k + 1) rest placed) :
      Placed env flightDays answer k ((pkg, targeting) :: rest)
        (⟨id, pkg.packageId, item⟩ :: placed)

/-- The orders stay as they are. -/
theorem orders_placeLineItems
    (server : AdServer) :
    (placeLineItems env flightDays answer k targeted server).2.orders = server.orders := by
  induction targeted generalizing k server with
  | nil => rfl
  | cons first rest ih =>
      obtain ⟨pkg, targeting⟩ := first
      rw [placeLineItems]
      cases packageLineItem env flightDays pkg targeting with
      | error err => rfl
      | ok item =>
          dsimp only
          cases answer k with
          | fault fault => rfl
          | lost id fault => rfl
          | empty => exact ih server
          | created id => exact ih (server.place id pkg.packageId item)

theorem placeLineItems_of_placed
    (h : Placed env flightDays answer k targeted placed)
    (server : AdServer) :
    placeLineItems env flightDays answer k targeted server =
      (.ok (placed.map (·.lineItemId)),
        { server with lineItems := server.lineItems ++ placed }) := by
  induction h generalizing server with
  | done k =>
      rw [placeLineItems, List.append_nil]
      rfl
  | skipped hitem hanswer _ ih =>
      rw [placeLineItems, hitem]
      dsimp only
      rw [hanswer]
      exact ih server
  | created hitem hanswer _ ih =>
      rw [placeLineItems, hitem]
      dsimp only
      rw [hanswer]
      dsimp only
      rw [ih]
      simp [AdServer.place, Except.map]

theorem placed_of_placeLineItems
    {server filled : AdServer} {ids : List String}
    (h : placeLineItems env flightDays answer k targeted server = (.ok ids, filled)) :
    ∃ placed, Placed env flightDays answer k targeted placed := by
  induction targeted generalizing k server ids with
  | nil => exact ⟨[], .done k⟩
  | cons first rest ih =>
      obtain ⟨pkg, targeting⟩ := first
      rw [placeLineItems] at h
      cases hitem : packageLineItem env flightDays pkg targeting with
      | error err =>
          rw [hitem] at h
          cases h
      | ok item =>
          rw [hitem] at h
          dsimp only at h
          cases hanswer : answer k with
          | fault fault =>
              rw [hanswer] at h
              cases h
          | lost id fault =>
              rw [hanswer] at h
              cases h
          | empty =>
              rw [hanswer] at h
              obtain ⟨placed, hplaced⟩ := ih h
              exact ⟨placed, .skipped hitem hanswer hplaced⟩
          | created id =>
              rw [hanswer] at h
              dsimp only at h
              cases hrest : placeLineItems env flightDays answer (k + 1) rest
                  (server.place id pkg.packageId item) with
              | mk result filled' =>
                  rw [hrest] at h
                  cases result with
                  | error err => cases h
                  | ok ids' =>
                      cases h
                      obtain ⟨placed, hplaced⟩ := ih hrest
                      exact ⟨_, .created hitem hanswer hplaced⟩

theorem Placed.packageId_mem
    (h : Placed env flightDays answer k targeted placed)
    {item : PlacedItem}
    (hitem : item ∈ placed) :
    item.packageId ∈ targeted.map (·.1.packageId) := by
  induction h with
  | done k => cases hitem
  | skipped _ _ _ ih => exact List.mem_cons_of_mem _ (ih hitem)
  | created _ _ _ ih =>
      rcases List.mem_cons.mp hitem with rfl | hmem
      · exact List.mem_cons_self
      · exact List.mem_cons_of_mem _ (ih hmem)

theorem Placed.ready
    (h : Placed env flightDays answer k targeted placed)
    {first : PricedPackage × GamTargeting}
    (hfirst : first ∈ targeted) :
    ∃ item, packageLineItem env flightDays first.1 first.2 = .ok item := by
  induction h with
  | done k => cases hfirst
  | skipped hitem _ _ ih =>
      rcases List.mem_cons.mp hfirst with rfl | hmem
      · exact ⟨_, hitem⟩
      · exact ih hmem
  | created hitem _ _ ih =>
      rcases List.mem_cons.mp hfirst with rfl | hmem
      · exact ⟨_, hitem⟩
      · exact ih hmem

/-- Where every package has something placed, the ad server has created it. -/
theorem Placed.all_created
    (h : Placed env flightDays answer k targeted placed)
    (hdistinct : (targeted.map (·.1.packageId)).Nodup)
    (hall : ∀ first ∈ targeted, ∃ item ∈ placed, item.packageId = first.1.packageId) :
    ∀ j < targeted.length, ∃ id, answer (k + j) = .created id := by
  induction h with
  | done k =>
      intro j hj
      exact absurd hj (Nat.not_lt_zero j)
  | skipped _ _ hrest _ =>
      -- nothing is placed of the first package: the others have other ids
      obtain ⟨hfresh, -⟩ := List.nodup_cons.mp hdistinct
      obtain ⟨item, hitem, hid⟩ := hall _ List.mem_cons_self
      have hmem := hrest.packageId_mem hitem
      rw [hid] at hmem
      exact absurd hmem hfresh
  | @created k pkg targeting rest item placed id _ hanswer _ ih =>
      obtain ⟨hfresh, hdistinct⟩ := List.nodup_cons.mp hdistinct
      have hrest : ∀ first ∈ rest, ∃ item ∈ placed, item.packageId = first.1.packageId := by
        intro first hfirst
        obtain ⟨item', hitem', hid⟩ := hall first (List.mem_cons_of_mem _ hfirst)
        rcases List.mem_cons.mp hitem' with rfl | hmem
        · exact absurd (List.mem_map.mpr ⟨first, hfirst, hid.symm⟩) hfresh
        · exact ⟨item', hmem, hid⟩
      intro j hj
      cases j with
      | zero => exact ⟨id, hanswer⟩
      | succ j =>
          obtain ⟨id', hid'⟩ := ih hdistinct hrest j (Nat.lt_of_succ_lt_succ hj)
          exact ⟨id', by rw [← hid']; congr 1; omega⟩

theorem Placed.forall₂_of_created
    (h : Placed env flightDays answer k targeted placed)
    (hcreated : ∀ j < targeted.length, ∃ id, answer (k + j) = .created id) :
    List.Forall₂ (fun first item => item.packageId = first.1.packageId
      ∧ packageLineItem env flightDays first.1 first.2 = .ok item.item) targeted placed := by
  induction h with
  | done k => exact .nil
  | skipped _ hanswer _ _ =>
      obtain ⟨id, hid⟩ := hcreated 0 (Nat.zero_lt_succ _)
      rw [Nat.add_zero, hanswer] at hid
      cases hid
  | created hitem hanswer _ ih =>
      refine .cons ⟨rfl, hitem⟩ (ih fun j hj => ?_)
      obtain ⟨id', hid'⟩ := hcreated (j + 1) (Nat.succ_lt_succ hj)
      exact ⟨id', by rw [← hid']; congr 1; omega⟩

theorem Placed.answered
    (h : Placed env flightDays answer k targeted placed)
    {item : PlacedItem}
    (hitem : item ∈ placed) :
    ∃ j, k ≤ j ∧ answer j = .created item.lineItemId := by
  induction h with
  | done k => cases hitem
  | skipped _ _ _ ih =>
      obtain ⟨j, hj, hanswer⟩ := ih hitem
      exact ⟨j, Nat.le_of_succ_le hj, hanswer⟩
  | created _ hanswer _ ih =>
      rcases List.mem_cons.mp hitem with rfl | hmem
      · exact ⟨_, le_rfl, hanswer⟩
      · obtain ⟨j, hj, hanswer⟩ := ih hmem
        exact ⟨j, Nat.le_of_succ_le hj, hanswer⟩

theorem Placed.lineItemIds_nodup
    (h : Placed env flightDays answer k targeted placed)
    (hfresh : ∀ j k id, answer j = .created id → answer k = .created id → j = k) :
    (placed.map (·.lineItemId)).Nodup := by
  induction h with
  | done k => exact List.nodup_nil
  | skipped _ _ _ ih => exact ih
  | created _ hanswer hrest ih =>
      refine List.nodup_cons.mpr ⟨?_, ih⟩
      intro hmem
      obtain ⟨item, hitem, hid⟩ := List.mem_map.mp hmem
      obtain ⟨j, hj, hanswer'⟩ := hrest.answered hitem
      rw [hid] at hanswer'
      have := hfresh _ _ _ hanswer hanswer'
      omega

/-- A loop whose calls all create makes one line item of each package. -/
theorem placeLineItems_created
    (hready : ∀ first ∈ targeted, ∃ item,
      packageLineItem env flightDays first.1 first.2 = .ok item)
    (hcreated : ∀ j < targeted.length, ∃ id, answer (k + j) = .created id) :
    ∃ placed, Placed env flightDays answer k targeted placed
      ∧ placed.map (·.packageId) = targeted.map (·.1.packageId) := by
  induction targeted generalizing k with
  | nil => exact ⟨[], .done k, rfl⟩
  | cons first rest ih =>
      obtain ⟨item, hitem⟩ := hready first List.mem_cons_self
      obtain ⟨id, hid⟩ := hcreated 0 (Nat.zero_lt_succ _)
      have hrest : ∀ j < rest.length, ∃ id, answer (k + 1 + j) = .created id := by
        intro j hj
        obtain ⟨id', hid'⟩ := hcreated (j + 1) (Nat.succ_lt_succ hj)
        exact ⟨id', by rw [← hid']; congr 1; omega⟩
      obtain ⟨placed, hplaced, hids⟩ :=
        ih (fun first hfirst => hready first (List.mem_cons_of_mem _ hfirst)) hrest
      exact ⟨_, .created hitem hid hplaced, by rw [List.map_cons, List.map_cons, hids]⟩

end Loop

section Outcome

variable {env : GamAdapter} {request : OrderRequest} {answers : Answers}

theorem packageLineItem_isOk_iff
    {flightDays : Int} {pkg : PricedPackage} {targeting : GamTargeting} :
    (∃ item, packageLineItem env flightDays pkg targeting = .ok item) ↔
      ∃ product, env.orderedProduct pkg = some product
        ∧ LineReady env.toLineItemEnv product ((env.overlayOf pkg).bind (·.frequencyCap))
          pkg := by
  rw [packageLineItem]
  cases env.orderedProduct pkg with
  | none =>
      refine iff_of_false (fun ⟨_, h⟩ => by cases h) ?_
      rintro ⟨product, h, -⟩
      cases h
  | some product =>
      dsimp only
      rw [buildLineItem_isOk_iff]
      constructor
      · intro h
        exact ⟨product, rfl, h⟩
      · rintro ⟨product', hproduct, h⟩
        cases hproduct
        exact h

theorem targetPackages_eq_ok
    {value : Json → Json → Option Int} {packages : List PricedPackage}
    {targeted : List (PricedPackage × GamTargeting)}
    (h : targetPackages env value packages = .ok targeted) :
    targeted.map (·.1) = packages
      ∧ ∀ first ∈ targeted, packageTargeting env value first.1 = .ok first.2 := by
  induction packages generalizing targeted with
  | nil =>
      cases h
      exact ⟨rfl, fun first hfirst => absurd hfirst List.not_mem_nil⟩
  | cons pkg packages ih =>
      obtain ⟨first, rest, hfirst, hrest, rfl⟩ := Runs.mapM_cons_eq_ok.mp h
      obtain ⟨hpackages, htargeting⟩ := ih hrest
      cases hbuilt : packageTargeting env value pkg with
      | error err =>
          rw [hbuilt] at hfirst
          cases hfirst
      | ok targeting =>
          rw [hbuilt] at hfirst
          cases hfirst
          exact ⟨by rw [List.map_cons, hpackages], List.forall_mem_cons.mpr ⟨hbuilt, htargeting⟩⟩

theorem targetPackages_isOk_iff
    {value : Json → Json → Option Int} {packages : List PricedPackage} :
    (∃ targeted, targetPackages env value packages = .ok targeted) ↔
      ∀ pkg ∈ packages, ∃ targeting, packageTargeting env value pkg = .ok targeting := by
  rw [targetPackages, Runs.exists_mapM_eq_ok_iff]
  refine forall₂_congr fun pkg _ => ?_
  cases packageTargeting env value pkg with
  | error err => exact iff_of_false (fun ⟨_, h⟩ => by cases h) (fun ⟨_, h⟩ => by cases h)
  | ok targeting => exact iff_of_true ⟨_, rfl⟩ ⟨targeting, rfl⟩

theorem orders_of_made
    {answer : Answer}
    (h : answer.made = true)
    (inTime : Bool) :
    (timeout inTime (orderCall answer {})).2.orders ≠ [] := by
  cases answer with
  | created id =>
      cases inTime with
      | true => exact List.cons_ne_nil _ _
      | false => exact List.cons_ne_nil _ _
  | lost id fault =>
      cases inTime with
      | true => exact List.cons_ne_nil _ _
      | false => exact List.cons_ne_nil _ _
  | empty => cases h
  | fault fault => cases h

theorem orderCall_of_not_made
    {answer : Answer}
    (h : answer.made = false)
    (inTime : Bool) :
    ∃ err, timeout inTime (orderCall answer {}) = (.error err, {}) := by
  cases answer with
  | created id => cases h
  | lost id fault => cases h
  | empty =>
      cases inTime with
      | true => exact ⟨_, rfl⟩
      | false => exact ⟨_, rfl⟩
  | fault fault =>
      cases inTime with
      | true => exact ⟨_, rfl⟩
      | false => exact ⟨_, rfl⟩

theorem orderCall_eq_ok
    {answer : Answer} {inTime : Bool} {orderId : String} {server : AdServer}
    (h : timeout inTime (orderCall answer {}) = (.ok orderId, server)) :
    answer = .created orderId ∧ inTime = true ∧ server = { orders := [orderId] } := by
  cases inTime with
  | false => cases h
  | true =>
      cases answer with
      | created id =>
          cases h
          exact ⟨rfl, rfl, rfl⟩
      | lost id fault => cases h
      | empty => cases h
      | fault fault => cases h

/-- Filling an order leaves it there. -/
theorem orders_fillOrder
    (orderId : String)
    (server : AdServer) :
    (fillOrder env request answers orderId server).2.orders = server.orders := by
  rw [fillOrder]
  cases targetPackages env answers.value request.packages with
  | error err => rfl
  | ok targeted =>
      dsimp only
      have horders := @orders_placeLineItems env request.flightDays answers.lineItem 0 targeted
        server
      cases hplace : placeLineItems env request.flightDays answers.lineItem 0 targeted server with
      | mk result filled =>
          rw [hplace] at horders
          cases answers.lineItemsInTime with
          | false => exact horders
          | true =>
              cases result with
              | error err => exact horders
              | ok ids =>
                  cases answers.itemsInTime with
                  | false => exact horders
                  | true => exact horders

theorem fillOrder_eq_ok
    {orderId : String} {server filled : AdServer} {created : CreatedOrder}
    (h : fillOrder env request answers orderId server = (.ok created, filled)) :
    ∃ targeted placed, targetPackages env answers.value request.packages = .ok targeted
      ∧ Placed env request.flightDays answers.lineItem 0 targeted placed
      ∧ answers.lineItemsInTime = true ∧ answers.itemsInTime = true
      ∧ filled = { server with lineItems := server.lineItems ++ placed } := by
  rw [fillOrder] at h
  cases htargeted : targetPackages env answers.value request.packages with
  | error err =>
      rw [htargeted] at h
      cases h
  | ok targeted =>
      rw [htargeted] at h
      dsimp only at h
      cases hlines : answers.lineItemsInTime with
      | false =>
          rw [hlines] at h
          cases h
      | true =>
          rw [hlines] at h
          cases hplace : placeLineItems env request.flightDays answers.lineItem 0 targeted
              server with
          | mk result filled' =>
              rw [hplace] at h
              cases result with
              | error err => cases h
              | ok ids =>
                  obtain ⟨placed, hplaced⟩ := placed_of_placeLineItems hplace
                  rw [placeLineItems_of_placed hplaced] at hplace
                  cases hplace
                  cases hitems : answers.itemsInTime with
                  | false =>
                      rw [hitems] at h
                      cases h
                  | true =>
                      rw [hitems] at h
                      cases h
                      exact ⟨targeted, placed, rfl, hplaced, rfl, rfl, rfl⟩

theorem fillOrder_of_placed
    {orderId : String} {server : AdServer} {targeted : List (PricedPackage × GamTargeting)}
    {placed : List PlacedItem}
    (htargeted : targetPackages env answers.value request.packages = .ok targeted)
    (hplaced : Placed env request.flightDays answers.lineItem 0 targeted placed)
    (hlines : answers.lineItemsInTime = true)
    (hitems : answers.itemsInTime = true) :
    fillOrder env request answers orderId server =
      (.ok (createSuccess orderId request.packages
        ((request.packages.map (·.packageId)).zip (placed.map (·.lineItemId)))),
        { server with lineItems := server.lineItems ++ placed }) := by
  rw [fillOrder, htargeted]
  dsimp only
  rw [placeLineItems_of_placed hplaced, hlines, hitems]
  rfl

theorem one_item_of_nodup
    {placed : List PlacedItem} {item : PlacedItem}
    (hdistinct : (placed.map (·.packageId)).Nodup)
    (hitem : item ∈ placed) :
    placed.filter (fun i => i.packageId = item.packageId) = [item]
      ∧ ((placed.map (·.packageId)).zip (placed.map (·.lineItemId))).lookup item.packageId
        = some item.lineItemId := by
  induction placed with
  | nil => cases hitem
  | cons first rest ih =>
      rw [List.map_cons, List.nodup_cons] at hdistinct
      obtain ⟨hfresh, hdistinct⟩ := hdistinct
      rw [List.map_cons, List.map_cons, List.zip_cons_cons, List.lookup_cons]
      rcases List.mem_cons.mp hitem with rfl | hmem
      · refine ⟨?_, by rw [beq_self_eq_true]⟩
        rw [List.filter_cons_of_pos (by simp), List.cons_inj_right, List.filter_eq_nil_iff]
        intro other hother
        rw [decide_eq_true_eq]
        intro hsame
        exact hfresh (List.mem_map.mpr ⟨other, hother, hsame⟩)
      · have hne : first.packageId ≠ item.packageId := fun hsame =>
          hfresh (List.mem_map.mpr ⟨item, hmem, hsame.symm⟩)
        obtain ⟨hfilter, hlookup⟩ := ih hdistinct hmem
        rw [List.filter_cons_of_neg (by simpa using hne), beq_false_of_ne (Ne.symm hne)]
        exact ⟨hfilter, hlookup⟩

theorem allOrNothing_of_nothing
    {err : GamError}
    (h : createMediaBuy env request answers = (.error err, {})) :
    AllOrNothing env request answers where
  raised err' _ := by
    rw [h]
    exact ⟨rfl, rfl⟩
  refused _ := by
    rw [h]
  returned created hcreated := by
    rw [h] at hcreated
    cases hcreated

theorem allOrNothing_parked_iff
    (hadmissible : Admissible env request.packages)
    (hparks : env.parks request = true) :
    AllOrNothing env request answers ↔ answers.stepStored = false ∨ request.packages = [] := by
  have hcall : createMediaBuy env request answers =
      if answers.stepStored then
        (.ok (createSuccess answers.parkedId request.packages []), {})
      else (.error .workflow, {}) := by
    rw [createMediaBuy, beforeOrder_eq_ok_iff.mpr hadmissible]
    dsimp only
    rw [hparks, if_pos rfl]
  cases hstored : answers.stepStored with
  | false =>
      rw [hstored] at hcall
      exact iff_of_true (allOrNothing_of_nothing hcall) (.inl rfl)
  | true =>
      rw [hstored, if_pos rfl] at hcall
      constructor
      · intro h
        refine .inr (List.eq_nil_iff_forall_not_mem.mpr ?_)
        intro pkg hpkg
        obtain ⟨item, hitem, -⟩ := h.returned _ (by rw [hcall]) pkg hpkg
        rw [hcall] at hitem
        cases hitem
      · intro h
        have hnone : request.packages = [] := h.resolve_left (fun h => by cases h)
        refine ⟨fun err herr => ?_, fun _ => by rw [hcall], fun created _ pkg hpkg => ?_⟩
        · rw [hcall] at herr
          cases herr
        · rw [hnone] at hpkg
          cases hpkg

theorem createMediaBuy_ordered
    (hadmissible : Admissible env request.packages)
    (hparks : env.parks request = false) :
    createMediaBuy env request answers =
      match timeout answers.orderInTime (orderCall answers.order {}) with
      | (.error err, server) => (.error err, server)
      | (.ok orderId, server) => fillOrder env request answers orderId server := by
  rw [createMediaBuy, beforeOrder_eq_ok_iff.mpr hadmissible]
  dsimp only
  rw [hparks, if_neg Bool.false_ne_true]

theorem createMediaBuy_eq_ok
    {created : CreatedOrder} {server : AdServer}
    (hparks : env.parks request = false)
    (h : createMediaBuy env request answers = (.ok created, server)) :
    ∃ orderId targeted placed, targetPackages env answers.value request.packages = .ok targeted
      ∧ Placed env request.flightDays answers.lineItem 0 targeted placed
      ∧ created = createSuccess orderId request.packages
        ((request.packages.map (·.packageId)).zip (placed.map (·.lineItemId)))
      ∧ server.lineItems = placed := by
  have hadmissible : Admissible env request.packages := by
    refine beforeOrder_eq_ok_iff.mp ?_
    cases hbefore : env.beforeOrder request.packages with
    | ok u => rfl
    | error err =>
        rw [createMediaBuy, hbefore] at h
        cases h
  rw [createMediaBuy_ordered hadmissible hparks] at h
  cases horder : timeout answers.orderInTime (orderCall answers.order {}) with
  | mk result placedOrder =>
      rw [horder] at h
      cases result with
      | error err => cases h
      | ok orderId =>
          dsimp only at h
          obtain ⟨-, -, rfl⟩ := orderCall_eq_ok horder
          obtain ⟨targeted, placed, htargeted, hplaced, hlines, hitems, -⟩ := fillOrder_eq_ok h
          rw [fillOrder_of_placed htargeted hplaced hlines hitems] at h
          cases h
          exact ⟨orderId, targeted, placed, htargeted, hplaced, rfl, List.nil_append placed⟩

theorem carriedOut_of_allOrNothing
    (hadmissible : Admissible env request.packages)
    (hparks : env.parks request = false)
    (hmade : answers.order.made = true)
    (h : AllOrNothing env request answers) :
    CarriedOut env request answers := by
  have hcall := @createMediaBuy_ordered env request answers hadmissible hparks
  have horders := orders_of_made hmade answers.orderInTime
  cases horder : timeout answers.orderInTime (orderCall answers.order {}) with
  | mk result server =>
      rw [horder] at hcall horders
      cases result with
      | error err =>
          -- raised over an order that is there
          have hnone := (h.raised err (by rw [hcall])).1
          rw [hcall] at hnone
          exact absurd hnone horders
      | ok orderId =>
          obtain ⟨hcreated, horderInTime, -⟩ := orderCall_eq_ok horder
          cases hfill : fillOrder env request answers orderId server with
          | mk result' filled =>
              have hkept := @orders_fillOrder env request answers orderId server
              dsimp only at hcall
              rw [hfill] at hcall hkept
              cases result' with
              | error err =>
                  have hnone := (h.raised err (by rw [hcall])).1
                  rw [hcall] at hnone
                  exact absurd (hkept.symm.trans hnone) horders
              | ok created =>
                  obtain ⟨targeted, placed, htargeted, hplaced, hlines, hitems, hfilled⟩ :=
                    fillOrder_eq_ok hfill
                  obtain ⟨hpackages, -⟩ := targetPackages_eq_ok htargeted
                  have hids : targeted.map (·.1.packageId) =
                      request.packages.map (·.packageId) := by
                    rw [← hpackages, List.map_map]
                    rfl
                  have hempty : server.lineItems = [] := by
                    rw [(orderCall_eq_ok horder).2.2]
                  have hall : ∀ first ∈ targeted, ∃ item ∈ placed,
                      item.packageId = first.1.packageId := by
                    intro first hfirst
                    obtain ⟨item, hitem, -⟩ := h.returned created (by rw [hcall]) first.1
                      (by rw [← hpackages]; exact List.mem_map_of_mem hfirst)
                    rw [hcall, hfilled, hempty, List.nil_append] at hitem
                    have hmem : item ∈ placed.filter
                        (fun i => i.packageId = first.1.packageId) := by
                      rw [hitem]
                      exact List.mem_singleton.mpr rfl
                    obtain ⟨hmem, hid⟩ := List.mem_filter.mp hmem
                    exact ⟨item, hmem, of_decide_eq_true hid⟩
                  have hdistinct : (targeted.map (·.1.packageId)).Nodup := by
                    rw [hids]
                    exact request.distinct
                  have hlength : targeted.length = request.packages.length := by
                    rw [← hpackages, List.length_map]
                  refine
                    { order := ⟨orderId, hcreated⟩
                      orderInTime := horderInTime
                      targeting := targetPackages_isOk_iff.mp ⟨targeted, htargeted⟩
                      ready := ?_
                      lineItems := ?_
                      lineItemsInTime := hlines
                      itemsInTime := hitems }
                  · intro pkg hpkg
                    rw [← hpackages] at hpkg
                    obtain ⟨first, hfirst, rfl⟩ := List.mem_map.mp hpkg
                    exact packageLineItem_isOk_iff.mp (hplaced.ready hfirst)
                  · intro k hk
                    rw [← hlength] at hk
                    obtain ⟨id, hid⟩ := hplaced.all_created hdistinct hall k hk
                    rw [Nat.zero_add] at hid
                    exact ⟨id, hid⟩

theorem allOrNothing_of_carriedOut
    (hadmissible : Admissible env request.packages)
    (hparks : env.parks request = false)
    (h : CarriedOut env request answers) :
    AllOrNothing env request answers := by
  obtain ⟨orderId, horder⟩ := h.order
  obtain ⟨targeted, htargeted⟩ := targetPackages_isOk_iff.mpr h.targeting
  obtain ⟨hpackages, -⟩ := targetPackages_eq_ok htargeted
  have hids : targeted.map (·.1.packageId) = request.packages.map (·.packageId) := by
    rw [← hpackages, List.map_map]
    rfl
  have hready : ∀ first ∈ targeted, ∃ item,
      packageLineItem env request.flightDays first.1 first.2 = .ok item := by
    intro first hfirst
    refine packageLineItem_isOk_iff.mpr (h.ready first.1 ?_)
    rw [← hpackages]
    exact List.mem_map_of_mem hfirst
  have hcreated : ∀ j < targeted.length, ∃ id, answers.lineItem (0 + j) = .created id := by
    intro j hj
    rw [Nat.zero_add]
    refine h.lineItems j ?_
    rw [← hpackages, List.length_map]
    exact hj
  obtain ⟨placed, hplaced, hplacedIds⟩ := placeLineItems_created hready hcreated
  rw [hids] at hplacedIds
  have hcall : createMediaBuy env request answers =
      (.ok (createSuccess orderId request.packages
        ((request.packages.map (·.packageId)).zip (placed.map (·.lineItemId)))),
        { orders := [orderId], lineItems := placed }) := by
    rw [createMediaBuy_ordered hadmissible hparks, h.orderInTime, horder]
    exact fillOrder_of_placed htargeted hplaced h.lineItemsInTime h.itemsInTime
  refine ⟨fun err herr => ?_, fun hdoomed => ?_, fun created hreturned pkg hpkg => ?_⟩
  · rw [hcall] at herr
    cases herr
  · obtain ⟨err, herr⟩ := hdoomed answers
    rw [hcall] at herr
    cases herr
  · rw [hcall] at hreturned
    cases hreturned
    have hpkgId : pkg.packageId ∈ placed.map (·.packageId) := by
      rw [hplacedIds]
      exact List.mem_map_of_mem hpkg
    obtain ⟨item, hitem, hid⟩ := List.mem_map.mp hpkgId
    have hdistinct : (placed.map (·.packageId)).Nodup := by
      rw [hplacedIds]
      exact request.distinct
    obtain ⟨hfilter, hlookup⟩ := one_item_of_nodup hdistinct hitem
    rw [hid, hplacedIds] at hlookup
    rw [hid] at hfilter
    refine ⟨item, ?_, hlookup⟩
    rw [hcall]
    exact hfilter

/-- The creation of an order is all or nothing exactly if the call is refused by the checks in
front of the order, is parked without a package or without its step, gets no order from the ad
server, or is carried out: the targeting of every package is built, its line item can be made,
and the ad server creates everything in time. -/
theorem all_or_nothing_iff
    (env : GamAdapter)
    (request : OrderRequest)
    (answers : Answers) :
    AllOrNothing env request answers ↔ Settles env request answers := by
  rw [Settles]
  by_cases hadmissible : Admissible env request.packages
  · rw [or_iff_right (not_not_intro hadmissible)]
    cases hparks : env.parks request with
    | true =>
        simp only [reduceCtorEq, true_and, false_and, or_false]
        exact allOrNothing_parked_iff hadmissible hparks
    | false =>
        simp only [reduceCtorEq, true_and, false_and, false_or]
        cases hmade : answers.order.made with
        | false =>
            refine iff_of_true ?_ (.inl rfl)
            obtain ⟨err, herr⟩ := orderCall_of_not_made hmade answers.orderInTime
            refine @allOrNothing_of_nothing env request answers err ?_
            rw [createMediaBuy_ordered hadmissible hparks, herr]
        | true =>
            simp only [reduceCtorEq, false_or]
            exact ⟨carriedOut_of_allOrNothing hadmissible hparks hmade,
              allOrNothing_of_carriedOut hadmissible hparks⟩
  · refine iff_of_true ?_ (.inl hadmissible)
    cases hbefore : env.beforeOrder request.packages with
    | ok u => exact absurd (beforeOrder_eq_ok_iff.mp hbefore) hadmissible
    | error err =>
        refine @allOrNothing_of_nothing env request answers err ?_
        rw [createMediaBuy, hbefore]

/-- An adapter whose products are all configured alike; an overlay is a device platform. -/
def sampleAdapter : GamAdapter where
  manager := sampleManager
  getFormat := fun _ _ => .error .formatNotFound
  creative := fun _ => none
  advertiserId := some "1"
  traffickerId := some "2"
  readOverlay := fun
    | .str "windows" => { devicePlatform := [.windows] }
    | _ => {}
  product := fun productId => some
    { productId := productId
      deliveryType := .guaranteed
      config := { targetedAdUnitIds := [.str "5"] } }
  inInventory := fun _ _ => true
  manualApprovalRequired := false
  manualApprovalOperations := []

/-- A package at a fixed price. -/
def samplePackage
    (packageId : String)
    (overlay : Option MediaBuys.Targeting) : PricedPackage where
  packageId := packageId
  name := "Spark"
  deliveryType := .guaranteed
  cpm := 10
  impressions := 100000
  formatIds := []
  targetingOverlay := overlay
  productId := "prod"
  budget := some 1000
  creativeIds := []
  pricing := some ⟨.cpm, some 10, "USD", true, none⟩

/-- A package for one device. -/
def windowsRequest : OrderRequest where
  alreadyApproved := false
  startTime := 0
  endTime := Timedelta.seconds 864000
  packages := [samplePackage "pkg_1" (some (.str "windows"))]
  distinct := by decide

/-- Two packages without an overlay. -/
def pairRequest : OrderRequest where
  alreadyApproved := false
  startTime := 0
  endTime := Timedelta.seconds 864000
  packages := [samplePackage "pkg_1" none, samplePackage "pkg_2" none]
  distinct := by decide

/-- The ad server creates everything but the first line item. -/
def sampleAnswers : Answers where
  stepStored := true
  parkedId := "gam_order_1"
  order := .created "7"
  orderInTime := true
  value := fun _ _ => some 900
  lineItem := fun k => if k = 0 then .empty else .created "11"
  lineItemsInTime := true
  itemsInTime := true

/-- Device targeting that the checks let through is refused when the order is there; and an empty
answer gives a package the line item of the next one. -/
theorem order_left_behind :
    (¬ ∀ env request answers, AllOrNothing env request answers)
      ∧ (createMediaBuy sampleAdapter windowsRequest sampleAnswers).1.toOption.isNone = true
      ∧ (createMediaBuy sampleAdapter windowsRequest sampleAnswers).2.orders = ["7"]
      ∧ (createMediaBuy sampleAdapter pairRequest sampleAnswers).1.toOption.map
          (·.platformLineItemIds) = some [("pkg_1", "11")]
      ∧ (createMediaBuy sampleAdapter pairRequest sampleAnswers).2.lineItems.map
          (fun i => (i.packageId, i.lineItemId)) = [("pkg_2", "11")] := by
  have hraised : (createMediaBuy sampleAdapter windowsRequest sampleAnswers).1.toOption.isNone
      = true := by
    decide +kernel
  have horders : (createMediaBuy sampleAdapter windowsRequest sampleAnswers).2.orders = ["7"] := by
    decide +kernel
  refine ⟨?_, hraised, horders, by decide +kernel, by decide +kernel⟩
  intro h
  have hall := h sampleAdapter windowsRequest sampleAnswers
  cases hcall : (createMediaBuy sampleAdapter windowsRequest sampleAnswers).1 with
  | ok created =>
      rw [hcall] at hraised
      cases hraised
  | error err =>
      have hnone := (hall.raised err hcall).1
      rw [horders] at hnone
      cases hnone

end Outcome

end Gam
end SalesAgent
