import ApiModel.Json.Number
import ApiModel.Main
import ApiModel.Proofs.Additions
import ApiModel.Proofs.Calls
import ApiModel.Proofs.Chains
import ApiModel.Proofs.Completeness
import ApiModel.Proofs.Composition
import ApiModel.Proofs.DistinctIds
import ApiModel.Proofs.Forms
import ApiModel.Proofs.Identification
import ApiModel.Proofs.Leftovers
import ApiModel.Proofs.Listing
import ApiModel.Proofs.Merging
import ApiModel.Proofs.Persistence
import ApiModel.Proofs.Properties
import ApiModel.Proofs.Qualification
import ApiModel.Proofs.Registration
import ApiModel.Proofs.Rejections
import ApiModel.Proofs.Remarks
import ApiModel.Proofs.Roots
import ApiModel.Proofs.SchemaIds
import ApiModel.Proofs.Segments
import ApiModel.Proofs.ServerList
import ApiModel.Proofs.Sessions
import ApiModel.Proofs.TargetNames
import ApiModel.Proofs.Termination
import ApiModel.Proofs.Transparency
import ApiModel.Proofs.ValueTypes
