import RestCatalog.Main
import RestCatalog.Proofs.Catalog.Construction
import RestCatalog.Proofs.Catalog.Independence
import RestCatalog.Proofs.Catalog.Reordering
import RestCatalog.Proofs.Creation.Found
import RestCatalog.Proofs.Parameter.Collection
import RestCatalog.Proofs.Parameter.Missing
import RestCatalog.Proofs.Path.Laws
import RestCatalog.Proofs.Path.Segment
import RestCatalog.Proofs.Path.TokenKey
import RestCatalog.Proofs.Preparation.Chain
import RestCatalog.Proofs.Preparation.Draft
import RestCatalog.Proofs.Preparation.Sharing
import RestCatalog.Proofs.Resource.AncestorOrder
import RestCatalog.Proofs.Resource.Renewal
import RestCatalog.Proofs.Resource.SizeHistory
import RestCatalog.Proofs.Selection.Rotation
import RestCatalog.Proofs.Table.Derivation
import RestCatalog.Proofs.Table.NormalName
import RestCatalog.Proofs.Parameter.Repeated
import RestCatalog.Proofs.OpenApi.Parameters
import RestCatalog.Proofs.OpenApi.Faithful
import RestCatalog.Proofs.Path.Scanning
import RestCatalog.Proofs.Text.Cuts
import RestCatalog.Proofs.Validation.ConfigFile
