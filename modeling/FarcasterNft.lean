import FarcasterNft.Pallet.Supply
import FarcasterNft.Pallet.EventLog
import FarcasterNft.Pallet.Money
import FarcasterNft.Pallet.Access
import FarcasterNft.Pallet.Guards
import FarcasterNft.Pallet.Commute
import FarcasterNft.Frontend.Wallet
import FarcasterNft.Frontend.Rendering
import FarcasterNft.Frontend.Collections
import FarcasterNft.Frontend.Gate
import FarcasterNft.Frontend.Queries
import FarcasterNft.Frontend.Pricing
import FarcasterNft.Js.Asking
import FarcasterNft.Pallet.Capacity
import FarcasterNft.Pallet.Custody
import FarcasterNft.Frontend.Snapshots
import FarcasterNft.Frontend.Actions
import FarcasterNft.Js.Reloading
import FarcasterNft.Frontend.Sessions
import FarcasterNft.Frontend.Accounts
import FarcasterNft.Frontend.Buttons
import FarcasterNft.Js.Printing
import FarcasterNft.Frontend.Forms
import FarcasterNft.Js.Coroutines
import FarcasterNft.Frontend.Interleaving
import FarcasterNft.Js.Distinct
import FarcasterNft.Frontend.ConnectWallet
import FarcasterNft.Frontend.ChainContext
