import Armory.Api
import Armory.Bits
import Armory.Bucket
import Armory.Catalog
import Armory.Character
import Armory.Command
import Armory.Command.Arguments
import Armory.Dialogue
import Armory.Draw
import Armory.Equipment
import Armory.Failure
import Armory.Game
import Armory.Game.Script
import Armory.Game.Simulation
import Armory.Gear.Equip
import Armory.Gear.Transfer
import Armory.Guardian
import Armory.Health
import Armory.Host
import Armory.Host.Connection
import Armory.Http.MediaType
import Armory.Http.Message
import Armory.Http.Target
import Armory.Item
import Armory.Item.Filter
import Armory.Item.Grouping
import Armory.Json.Decode
import Armory.Json.Lenient
import Armory.Json.Reader
import Armory.Json.Value
import Armory.Json.Writer
import Armory.Loadout
import Armory.Loadout.Drawn
import Armory.Loadout.Stored
import Armory.Loadout.Strongest
import Armory.Main
import Armory.Manifest
import Armory.Net.IpAddress
import Armory.Net.Percent
import Armory.Net.Url
import Armory.Procedure
import Armory.Profile
import Armory.Progression
import Armory.Proofs.Api.Classes
import Armory.Proofs.Api.Reach
import Armory.Proofs.Api.Requests
import Armory.Proofs.Catalog.Index
import Armory.Proofs.Catalog.Names
import Armory.Proofs.Dialogue.Batch
import Armory.Proofs.Dialogue.Exchange
import Armory.Proofs.Dialogue.Interleaving
import Armory.Proofs.Dialogue.Parts
import Armory.Proofs.Dialogue.Schedule
import Armory.Proofs.Dialogue.Together
import Armory.Proofs.Dialogue.Unwinding
import Armory.Proofs.Game.Inventory
import Armory.Proofs.Game.Placement
import Armory.Proofs.Game.Separation
import Armory.Proofs.Game.Stacks
import Armory.Proofs.Gear.Accounting
import Armory.Proofs.Gear.AnyOrder
import Armory.Proofs.Gear.BestEffort
import Armory.Proofs.Gear.Delivery
import Armory.Proofs.Gear.Parcels
import Armory.Proofs.Gear.Realisation
import Armory.Proofs.Gear.Substitute
import Armory.Proofs.Http.Target
import Armory.Proofs.Item.Choice
import Armory.Proofs.Item.First
import Armory.Proofs.Item.Grouping
import Armory.Proofs.Item.InPlace
import Armory.Proofs.Item.Nearest
import Armory.Proofs.Json.RoundTrip
import Armory.Proofs.Loadout.Classified
import Armory.Proofs.Loadout.Drawn
import Armory.Proofs.Loadout.Encoding
import Armory.Proofs.Loadout.Offer
import Armory.Proofs.Loadout.Optimal
import Armory.Proofs.Loadout.Outline
import Armory.Proofs.Loadout.Restored
import Armory.Proofs.Loadout.Strongest
import Armory.Proofs.Loadout.Wearing
import Armory.Proofs.Manifest.Import
import Armory.Proofs.Net.IpAddress
import Armory.Proofs.Net.Percent
import Armory.Proofs.Profile.Holdings
import Armory.Proofs.Profile.Order
import Armory.Proofs.Profile.Possession
import Armory.Proofs.Profile.Reported
import Armory.Proofs.Profile.Views
import Armory.Proofs.Readiness.Addresses
import Armory.Proofs.Service.Accounts
import Armory.Proofs.Service.Count
import Armory.Proofs.Service.Failure
import Armory.Proofs.Service.Faults
import Armory.Proofs.Service.FirstSave
import Armory.Proofs.Service.InPlace
import Armory.Proofs.Service.Named
import Armory.Proofs.Service.Operation
import Armory.Proofs.Service.Partners
import Armory.Proofs.Service.Resolution
import Armory.Proofs.Service.SaveStatus
import Armory.Proofs.Service.Scope
import Armory.Proofs.Service.Shortage
import Armory.Proofs.Settings.Attribution
import Armory.Proofs.Settings.Grammar
import Armory.Proofs.Settings.Layers
import Armory.Proofs.Settings.Precedence
import Armory.Proofs.Settings.Redaction
import Armory.Proofs.Settings.Variables
import Armory.Proofs.Store.Accounts
import Armory.Proofs.Store.Definitions
import Armory.Proofs.Store.Equivalence
import Armory.Proofs.Store.Laws
import Armory.Proofs.Store.Shelf
import Armory.Proofs.Table
import Armory.Proofs.Text.Lowercase
import Armory.Proofs.Time.Timestamp
import Armory.Proofs.Wire.Account
import Armory.Proofs.Wire.Latest
import Armory.Proofs.Wire.Listing
import Armory.Proofs.Wire.Patience
import Armory.Proofs.Wire.Rotation
import Armory.Proofs.Wire.Serving
import Armory.Readiness
import Armory.Report.Account
import Armory.Report.Game
import Armory.Report.Gear
import Armory.Report.Service
import Armory.Report.Settings
import Armory.Scenario.Game
import Armory.Scenario.Gear
import Armory.Scenario.Host
import Armory.Scenario.Link
import Armory.Scenario.World
import Armory.Service
import Armory.Service.Items
import Armory.Service.Loadouts
import Armory.Service.Ranks
import Armory.Settings
import Armory.Settings.Document
import Armory.Settings.Interpolation
import Armory.Settings.Key
import Armory.Settings.Listing
import Armory.Settings.Load
import Armory.Settings.Patch
import Armory.Settings.Rules
import Armory.Settings.Variables
import Armory.Snapshot
import Armory.Startup
import Armory.Store
import Armory.Store.Database
import Armory.Store.Image
import Armory.Store.Location
import Armory.Store.Memory
import Armory.Store.Shelf
import Armory.Sum
import Armory.Table
import Armory.Text.Blank
import Armory.Text.CaseTable
import Armory.Text.Digits
import Armory.Text.Lowercase
import Armory.Text.Quoted
import Armory.Tier
import Armory.Time.Calendar
import Armory.Time.Instant
import Armory.Toml.Number
import Armory.Toml.Quoted
import Armory.Toml.Reader
import Armory.Toml.Value
import Armory.Wire.Endpoint
import Armory.Wire.Envelope
import Armory.Wire.Link
import Armory.Wire.Payload
import Armory.Wire.Script
import Armory.Wire.Serving
import Armory.Wire.Session
